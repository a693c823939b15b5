import QueryBind.Proofs.Results
import QueryBind.Proofs.Schema.Changes

/-!
# Catalogs and their past

The past of a catalog is the list of the changes that made it. Of this list a
name remembers the last change made to it and nothing else: the catalog holds a
table under the name exactly if that change was a creation, and then it is the
table of that creation.
-/

namespace QueryBind

/-! ## The last change of a name -/

/-- The last change of a name in the past. -/
def lastOf (past : List Change) (name : String) : Option Change :=
  (past.filter (·.name == name)).getLast?

theorem lastOf_append_single (past : List Change) (ch : Change) (name : String) :
    lastOf (past ++ [ch]) name =
      if name = ch.name then some ch else lastOf past name := by
  unfold lastOf
  rw [List.filter_append]
  by_cases h : name = ch.name
  · subst h
    simp
  · have hne : ¬ ch.name = name := fun heq => h heq.symm
    simp [h, hne]

/-! ## Following a past -/

/-- A catalog holds what its past leaves, name by name. -/
structure Catalog.Follows (c : Catalog) (past : List Change) : Prop where
  contains_iff : ∀ name, c.contains name = true ↔
    ∃ d, lastOf past name = some (.create d)
  table_of_create : ∀ name d, lastOf past name = some (.create d) →
    ∃ t, c.find? name = some t ∧ t.name = name ∧
      Table.ofDefinition d = .ok t ∧ t.rebuilt = d
  own_name : ∀ t ∈ c.tables, c.find? t.name = some t
  ascending : c.tableNames.Pairwise (· < ·)
  version_eq : c.version = 1 + past.length

namespace Catalog

theorem follows_empty (name : String) : (empty name).Follows [] where
  contains_iff := by
    intro name
    simp [contains, find?, empty, lastOf]
  table_of_create := by
    rintro name d ⟨⟩
  own_name := by
    rintro t ⟨⟩
  ascending := List.Pairwise.nil
  version_eq := rfl

/-- A change that succeeds is the last one of its name and of no other name. -/
theorem Follows.step {c c' : Catalog} {past : List Change} {ch : Change}
    (h : c.Follows past) (hstep : c.ChangesTo ch c') :
    c'.Follows (past ++ [ch]) where
  contains_iff := by
    intro name
    rw [contains_eq_true_iff, hstep.find?_eq, lastOf_append_single]
    by_cases hname : name = ch.name
    · rw [if_pos hname, if_pos hname]
      cases ch with
      | create d =>
          obtain ⟨t, ht⟩ := Table.exists_ofDefinition_iff.mpr hstep.admissible.1
          simp [Change.leaves?, ht, Except.toOption]
      | drop name => simp [Change.leaves?]
    · rw [if_neg hname, if_neg hname, ← contains_eq_true_iff]
      exact h.contains_iff name
  table_of_create := by
    intro name d hlast
    rw [lastOf_append_single] at hlast
    rw [hstep.find?_eq]
    by_cases hname : name = ch.name
    · rw [if_pos hname] at hlast ⊢
      cases hlast
      obtain ⟨t, ht⟩ := Table.exists_ofDefinition_iff.mpr hstep.admissible.1
      refine ⟨t, by simp [Change.leaves?, ht, Except.toOption], ?_, ht, ?_⟩
      · exact (Table.name_of_ofDefinition ht).trans hname.symm
      · exact t.rebuilt_eq_definition.trans (Table.ofDefinition_eq_ok_iff.mp ht)
    · rw [if_neg hname] at hlast ⊢
      exact h.table_of_create name d hlast
  own_name := fun t ht => find?_eq_some_iff.mpr ⟨ht, rfl⟩
  ascending := c'.tableNames_ascending
  version_eq := by
    rw [hstep.version_eq, h.version_eq, List.length_append, List.length_singleton]
    omega

/-- Changes that succeed one after another prolong the past. -/
theorem Follows.replay {c c' : Catalog} {past chs : List Change}
    (h : c.Follows past) (hrun : chs.foldlM change c = .ok c') :
    c'.Follows (past ++ chs) := by
  induction chs generalizing c past with
  | nil =>
      cases hrun
      rw [List.append_nil]
      exact h
  | cons ch chs ih =>
      rw [List.foldlM_cons] at hrun
      obtain ⟨c₁, hfirst, hrest⟩ := bind_eq_ok_iff.mp hrun
      have hnext := h.step (change_eq_ok_iff.mp hfirst)
      rw [List.append_cons]
      exact ih hnext hrest

/-- The past of a catalog that was made from a definition is the creation of the
tables listed there. -/
theorem follows_ofDefinition {d : CatalogDefinition} {c : Catalog}
    (h : ofDefinition d = .ok c) : c.Follows (d.tables.map .create) := by
  have hrun : (d.tables.map .create).foldlM change (empty d.name) = .ok c := by
    rw [List.foldlM_map]
    exact h
  simpa using (follows_empty d.name).replay hrun

end Catalog

end QueryBind
