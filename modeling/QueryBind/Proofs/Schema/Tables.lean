import QueryBind.Schema.Table

/-!
# Tables and their definitions

A table is its definition and nothing else: a definition makes a table exactly
when it is valid, the table is the only one that it makes, and what can be read
back off the fields of the table is the definition again.
-/

namespace QueryBind.Table

/-! ## Which definitions make a table -/

theorem columnFault?_eq_none {d : TableDefinition} (h : d.IsValid) :
    columnFault? d.name [rowIdName] d.columns = none := by
  obtain ⟨hfresh, hnodup⟩ := List.nodup_cons.mp h.names_nodup
  refine columnFault?_eq_none_iff.mpr ⟨h.column_not_blank, ?_, hnodup⟩
  intro c hc hmem
  rw [← List.mem_singleton.mp hmem] at hfresh
  exact hfresh (List.mem_map_of_mem hc)

/-- The table that a definition makes is the one with that definition. -/
theorem ofDefinition_eq_ok_iff {d : TableDefinition} {t : Table} :
    ofDefinition d = .ok t ↔ t.definition = d := by
  unfold ofDefinition
  constructor
  · intro h
    split at h
    · cases h
    split at h
    · cases h
    split at h
    · cases h
    · cases h
      rfl
  · rintro rfl
    rw [dif_neg (by simp [t.valid.name_not_blank]),
      dif_neg t.valid.columns_ne_nil]
    split
    · next fault hfault =>
        rw [columnFault?_eq_none t.valid] at hfault
        cases hfault
    · rfl

theorem exists_ofDefinition_iff {d : TableDefinition} :
    (∃ t, ofDefinition d = .ok t) ↔ d.IsValid := by
  constructor
  · rintro ⟨t, h⟩
    rw [← ofDefinition_eq_ok_iff.mp h]
    exact t.valid
  · intro h
    exact ⟨⟨d, h⟩, ofDefinition_eq_ok_iff.mpr rfl⟩

theorem name_of_ofDefinition {d : TableDefinition} {t : Table}
    (h : ofDefinition d = .ok t) : t.name = d.name :=
  congrArg TableDefinition.name (ofDefinition_eq_ok_iff.mp h)

/-! ## Reading the definition back -/

theorem userFields_map_columnOf (t : Table) :
    t.userFields.map columnOf = t.definition.columns := by
  apply List.ext_getElem
  · simp [userFields, fields, systemFieldCount]
  · intro i _ _
    simp [userFields, fields, systemFieldCount, columnOf]

/-- Nothing of a definition is lost in the fields. -/
theorem rebuilt_eq_definition (t : Table) : t.rebuilt = t.definition := by
  rw [rebuilt, userFields_map_columnOf, name]

/-! ## Fields by name and by index -/

theorem fields_map_name (t : Table) :
    t.fields.map (·.name) = rowIdName :: t.definition.columns.map (·.name) := by
  have hcolumns : (t.definition.columns.mapIdx fun i c =>
      (⟨c.name, c.type, c.nullable, i + systemFieldCount, true⟩ : Field)).map
        (·.name) = t.definition.columns.map (·.name) := by
    apply List.ext_getElem <;> simp
  rw [fields, List.map_cons, hcolumns]
  rfl

/-- No two fields of a table have the same name. -/
theorem fields_names_nodup (t : Table) : (t.fields.map (·.name)).Nodup := by
  rw [fields_map_name]
  exact t.valid.names_nodup

theorem field_name_not_blank {t : Table} {f : Field} (h : f ∈ t.fields) :
    Text.isBlank f.name = false := by
  have hname : f.name ∈ rowIdName :: t.definition.columns.map (·.name) := by
    rw [← fields_map_name]
    exact List.mem_map_of_mem h
  rcases List.mem_cons.mp hname with hrow | hcolumn
  · rw [hrow]
    decide
  · obtain ⟨c, hc, heq⟩ := List.mem_map.mp hcolumn
    rw [← heq]
    exact t.valid.column_not_blank c hc

/-- Every field stands at its own index. -/
theorem fieldAt?_index_of_mem {t : Table} {f : Field} (h : f ∈ t.fields) :
    t.fieldAt? f.index = some f := by
  unfold fieldAt?
  rw [fields] at h ⊢
  rcases List.mem_cons.mp h with rfl | h
  · rfl
  · obtain ⟨i, hi, rfl⟩ := List.mem_mapIdx.mp h
    simp [systemFieldCount, List.getElem?_eq_getElem hi]

/-- A name has the index of the one field of that name. -/
theorem fieldIndex?_eq_some_iff {t : Table} {name : String} {i : Nat} :
    t.fieldIndex? name = some i ↔ ∃ f, t.fieldAt? i = some f ∧ f.name = name := by
  unfold fieldIndex? fieldAt?
  rw [List.findIdx?_eq_some_iff_getElem]
  constructor
  · rintro ⟨hlt, hname, -⟩
    exact ⟨t.fields[i], List.getElem?_eq_getElem hlt, by simpa using hname⟩
  · rintro ⟨f, hf, rfl⟩
    obtain ⟨hlt, rfl⟩ := List.getElem?_eq_some_iff.mp hf
    refine ⟨hlt, by simp, fun j hj => ?_⟩
    have hdistinct : t.fields.Pairwise fun f g => f.name ≠ g.name :=
      List.pairwise_map.mp t.fields_names_nodup
    simpa using List.pairwise_iff_getElem.mp hdistinct j i (by omega) hlt hj

end QueryBind.Table
