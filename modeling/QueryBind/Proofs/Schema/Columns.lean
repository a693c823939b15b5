import Mathlib.Data.List.Induction
import QueryBind.Proofs.Schema.Tables

/-!
# Tables column by column

A table is made by adding its columns one after another behind the row
identifier. A column is tested against the fields made so far and takes their
number for its index, so the first column that is blank, or called like a field
before it, decides the error. If there is none, no two fields share a name, and
for that reason names and indices of fields determine each other.
-/

namespace QueryBind.Table

open Text

/-! ## The first fault -/

/-- Columns that a table can begin with. -/
structure Sound (columns : List ColumnDefinition) : Prop where
  not_blank : ∀ c ∈ columns, isBlank c.name = false
  names_nodup : (rowIdName :: columns.map (·.name)).Nodup

theorem sound_iff {columns : List ColumnDefinition} :
    Sound columns ↔ (∀ c ∈ columns, isBlank c.name = false) ∧
      (columns.map (·.name)).Nodup ∧ ∀ c ∈ columns, c.name ≠ rowIdName := by
  have hfresh : rowIdName ∉ columns.map (·.name) ↔ ∀ c ∈ columns, c.name ≠ rowIdName := by
    simp
  constructor
  · rintro ⟨hblank, hnodup⟩
    rw [List.nodup_cons, hfresh] at hnodup
    exact ⟨hblank, hnodup.2, hnodup.1⟩
  · rintro ⟨hblank, hnodup, hnames⟩
    exact ⟨hblank, List.nodup_cons.mpr ⟨hfresh.mpr hnames, hnodup⟩⟩

theorem columnFault?_eq_none_iff_sound {table : String} {columns : List ColumnDefinition} :
    columnFault? table [rowIdName] columns = none ↔ Sound columns := by
  rw [columnFault?_eq_none_iff, sound_iff]
  simp only [List.mem_singleton]
  exact and_congr_right fun _ => and_comm

theorem columnFault?_cons (table : String) (seen : List String) (c : ColumnDefinition)
    (columns : List ColumnDefinition) :
    columnFault? table seen (c :: columns) = (columnFault? table seen [c]).or
      (columnFault? table (seen ++ [c.name]) columns) := by
  by_cases hblank : isBlank c.name = true
  · simp [columnFault?, hblank]
  by_cases hseen : c.name ∈ seen
  · simp [columnFault?, hblank, hseen]
  · rw [columnFault?, if_neg hblank, if_neg hseen]
    simp [columnFault?, hblank, hseen]

/-- The fault of a list of columns is that of its first column that has one, seen
behind those before it. -/
theorem columnFault?_eq_some_iff {table : String} {seen : List String}
    {columns : List ColumnDefinition} {e : Error} :
    columnFault? table seen columns = some e ↔ ∃ before c after,
      columns = before ++ c :: after ∧ columnFault? table seen before = none ∧
        columnFault? table (seen ++ before.map (·.name)) [c] = some e := by
  induction columns generalizing seen with
  | nil => simp [columnFault?]
  | cons c columns ih =>
      rw [columnFault?_cons, Option.or_eq_some_iff, ih]
      constructor
      · rintro (hfirst | ⟨hfirst, before, b, after, rfl, hbefore, hb⟩)
        · exact ⟨[], c, columns, rfl, rfl, by simpa using hfirst⟩
        · refine ⟨c :: before, b, after, rfl, ?_, by simpa using hb⟩
          rw [columnFault?_cons, hfirst, hbefore]
          rfl
      · rintro ⟨before, b, after, hsplit, hbefore, hb⟩
        rcases List.cons_eq_append_iff.mp hsplit with ⟨rfl, heq⟩ | ⟨before, rfl, rfl⟩
        · cases heq
          exact .inl (by simpa using hb)
        · rw [columnFault?_cons, Option.or_eq_none_iff] at hbefore
          exact .inr ⟨hbefore.1, before, b, after, rfl, hbefore.2, by simpa using hb⟩

/-- What a definition is refused for, with the kind of the error: its name, or else
its having no columns, or else the first column that is blank or called like a
field before it. -/
inductive Faulty (d : TableDefinition) : ErrorKind → Error → Prop where
  | blankName : isBlank d.name = true → Faulty d .invalidArgument .blankTableName
  | noColumns : isBlank d.name = false → d.columns = [] →
      Faulty d .catalog (.noColumns d.name)
  | blankColumn {before c after} : isBlank d.name = false →
      d.columns = before ++ c :: after → Sound before → isBlank c.name = true →
      Faulty d .invalidArgument (.blankColumnName d.name)
  | repeatedColumn {before c after} : isBlank d.name = false →
      d.columns = before ++ c :: after → Sound before → isBlank c.name = false →
      c.name ∈ rowIdName :: before.map (·.name) →
      Faulty d .catalog (.repeatedColumn c.name d.name)

theorem ofDefinition_eq_error_of_columnFault? {d : TableDefinition} {e : Error}
    (hname : isBlank d.name = false) (h : columnFault? d.name [rowIdName] d.columns = some e) :
    ofDefinition d = .error e := by
  have hcols : d.columns ≠ [] := by
    intro hnil
    rw [hnil] at h
    cases h
  unfold ofDefinition
  rw [dif_neg (by simp [hname]), dif_neg hcols]
  split
  · next fault hfault =>
      rw [hfault] at h
      cases h
      rfl
  · next hfault =>
      rw [hfault] at h
      cases h

theorem Faulty.sound {d : TableDefinition} {kind : ErrorKind} {e : Error}
    (h : Faulty d kind e) : ofDefinition d = .error e ∧ e.kind = kind := by
  cases h with
  | blankName hname => exact ⟨dif_pos hname, rfl⟩
  | noColumns hname hcols =>
      refine ⟨?_, rfl⟩
      rw [ofDefinition, dif_neg (by simp [hname]), dif_pos hcols]
  | blankColumn hname hsplit hbefore hblank =>
      refine ⟨ofDefinition_eq_error_of_columnFault? hname (columnFault?_eq_some_iff.mpr
        ⟨_, _, _, hsplit, columnFault?_eq_none_iff_sound.mpr hbefore, ?_⟩), rfl⟩
      rw [columnFault?, if_pos hblank]
  | repeatedColumn hname hsplit hbefore hblank hseen =>
      refine ⟨ofDefinition_eq_error_of_columnFault? hname (columnFault?_eq_some_iff.mpr
        ⟨_, _, _, hsplit, columnFault?_eq_none_iff_sound.mpr hbefore, ?_⟩), rfl⟩
      rw [columnFault?, if_neg (by simp [hblank]), if_pos (by simpa using hseen)]

theorem faulty_of_ofDefinition {d : TableDefinition} {e : Error}
    (h : ofDefinition d = .error e) : Faulty d e.kind e := by
  unfold ofDefinition at h
  split at h
  · next hname =>
      cases h
      exact .blankName hname
  next hname =>
  replace hname : isBlank d.name = false := by simpa using hname
  split at h
  · next hcols =>
      cases h
      exact .noColumns hname hcols
  split at h
  · next fault hfault =>
      cases h
      obtain ⟨before, c, after, hsplit, hbefore, hc⟩ := columnFault?_eq_some_iff.mp hfault
      replace hbefore := columnFault?_eq_none_iff_sound.mp hbefore
      unfold columnFault? at hc
      split at hc
      · next hblank =>
          cases hc
          exact .blankColumn hname hsplit hbefore hblank
      next hblank =>
      split at hc
      · next hseen =>
          cases hc
          exact .repeatedColumn hname hsplit hbefore (by simpa using hblank)
            (by simpa using hseen)
      · cases hc
  · cases h

theorem ofDefinition_eq_error_iff {d : TableDefinition} {e : Error} :
    ofDefinition d = .error e ↔ Faulty d e.kind e :=
  ⟨faulty_of_ofDefinition, fun h => h.sound.1⟩

/-! ## Adding columns -/

/-- The fields of a table with the given columns. -/
def fieldsOf (columns : List ColumnDefinition) : List Field :=
  .rowId :: columns.mapIdx fun i c => ⟨c.name, c.type, c.nullable, i + systemFieldCount, true⟩

/-- The fields with one column more. Its name has to be new among them, and its index
is their number. -/
def addColumn (table : String) (fields : List Field) (c : ColumnDefinition) :
    Except Error (List Field) :=
  if isBlank c.name then .error (.blankColumnName table)
  else if fields.any (·.name == c.name) then .error (.repeatedColumn c.name table)
  else .ok (fields ++ [⟨c.name, c.type, c.nullable, fields.length, true⟩])

theorem fieldsOf_concat (columns : List ColumnDefinition) (c : ColumnDefinition) :
    fieldsOf (columns ++ [c]) =
      fieldsOf columns ++ [⟨c.name, c.type, c.nullable, (fieldsOf columns).length, true⟩] := by
  simp [fieldsOf, List.mapIdx_append, systemFieldCount]

theorem fieldsOf_map_name (columns : List ColumnDefinition) :
    (fieldsOf columns).map (·.name) = rowIdName :: columns.map (·.name) := by
  induction columns using List.reverseRecOn with
  | nil => rfl
  | append_singleton columns c ih =>
      rw [fieldsOf_concat, List.map_append, ih, List.map_append]
      rfl

theorem any_fieldsOf_iff {columns : List ColumnDefinition} {name : String} :
    (fieldsOf columns).any (·.name == name) = true ↔
      name ∈ rowIdName :: columns.map (·.name) := by
  rw [← fieldsOf_map_name, List.any_eq_true, List.mem_map]
  simp

/-- Adding columns behind those of a table comes to a table with all of them, or to
the first fault. -/
theorem foldlM_addColumn (table : String) (before columns : List ColumnDefinition) :
    columns.foldlM (addColumn table) (fieldsOf before) =
      match columnFault? table (rowIdName :: before.map (·.name)) columns with
      | some fault => .error fault
      | none => .ok (fieldsOf (before ++ columns)) := by
  induction columns generalizing before with
  | nil =>
      rw [List.append_nil]
      rfl
  | cons c columns ih =>
      rw [List.foldlM_cons, addColumn, columnFault?]
      by_cases hblank : isBlank c.name = true
      · rw [if_pos hblank, if_pos hblank]
        rfl
      by_cases hseen : c.name ∈ rowIdName :: before.map (·.name)
      · rw [if_neg hblank, if_neg hblank, if_pos (any_fieldsOf_iff.mpr hseen),
          if_pos hseen]
        rfl
      · rw [if_neg hblank, if_neg hblank, if_neg (mt any_fieldsOf_iff.mp hseen),
          if_neg hseen, ← fieldsOf_concat]
        have hrest := ih (before ++ [c])
        rw [List.map_append, ← List.cons_append, List.append_assoc] at hrest
        exact hrest

/-- The fields that come of a definition if its columns are added one by one. -/
def grown (d : TableDefinition) : Except Error (List Field) :=
  if isBlank d.name then .error .blankTableName
  else if d.columns = [] then .error (.noColumns d.name)
  else d.columns.foldlM (addColumn d.name) [.rowId]

theorem map_fields_ofDefinition (d : TableDefinition) :
    (ofDefinition d).map fields = grown d := by
  have hrun := foldlM_addColumn d.name [] d.columns
  rw [List.nil_append] at hrun
  change d.columns.foldlM (addColumn d.name) [.rowId] =
    match columnFault? d.name [rowIdName] d.columns with
    | some fault => .error fault
    | none => .ok (fieldsOf d.columns) at hrun
  unfold ofDefinition grown
  rw [hrun]
  split
  · rfl
  split
  · rfl
  split
  · next fault hfault =>
      rw [hfault]
      rfl
  · next hfault =>
      simp only [hfault]
      rfl

/-! ## Names and indices -/

/-- The index of a field is its place, and what stands behind the hidden fields is
shown. -/
theorem index_visible_of_fieldAt? {t : Table} {i : Nat} {f : Field} (h : t.fieldAt? i = some f) :
    f.index = i ∧ (f.visible = true ↔ systemFieldCount ≤ i) := by
  rw [fieldAt?, fields] at h
  cases i with
  | zero =>
      cases h
      decide
  | succ i =>
      rw [List.getElem?_cons_succ, List.getElem?_mapIdx, Option.map_eq_some_iff] at h
      obtain ⟨c, -, rfl⟩ := h
      simp [systemFieldCount]

/-- The field of a name is the one at the index of the name. -/
theorem field?_eq_bind (t : Table) (name : String) :
    t.field? name = (t.fieldIndex? name).bind t.fieldAt? := by
  exact List.find?_eq_bind_findIdx?_getElem?

/-- A name has a field exactly if it has an index. -/
theorem hasField_eq_isSome (t : Table) (name : String) :
    t.hasField name = (t.fieldIndex? name).isSome := by
  rw [Bool.eq_iff_iff, hasField, field?, fieldIndex?, List.find?_isSome, List.findIdx?_isSome,
    List.any_eq_true]

/-- How a table stands for a definition. The row identifier comes first, hidden and
never NULL, and the columns follow in order; a field is found by its index and by
its name alike; and the definition can be read back off the fields. -/
structure Represents (t : Table) (d : TableDefinition) : Prop where
  name_eq : t.name = d.name
  fieldCount_eq : t.fieldCount = systemFieldCount + d.columns.length
  rowId : t.fieldAt? 0 = some ⟨"__row_id", .bigint, false, 0, false⟩
  userFields : t.userFields.map columnOf = d.columns
  index_visible : ∀ i f, t.fieldAt? i = some f →
    f.index = i ∧ (f.visible = true ↔ systemFieldCount ≤ i)
  names_nodup : (t.fields.map (·.name)).Nodup
  fieldIndex? : ∀ name i, t.fieldIndex? name = some i ↔
    ∃ f, t.fieldAt? i = some f ∧ f.name = name
  field? : ∀ name, t.field? name = (t.fieldIndex? name).bind t.fieldAt?
  hasField : ∀ name, t.hasField name = (t.fieldIndex? name).isSome
  rebuilt_eq : t.rebuilt = d

theorem represents_definition (t : Table) : Represents t t.definition where
  name_eq := rfl
  fieldCount_eq := by rw [fieldCount, fields_length, Nat.add_comm]; rfl
  rowId := rfl
  userFields := t.userFields_map_columnOf
  index_visible := fun _ _ => index_visible_of_fieldAt?
  names_nodup := t.fields_names_nodup
  fieldIndex? := fun _ _ => fieldIndex?_eq_some_iff
  field? := t.field?_eq_bind
  hasField := t.hasField_eq_isSome
  rebuilt_eq := t.rebuilt_eq_definition

theorem ofDefinition_eq_ok_iff_represents {d : TableDefinition} {t : Table} :
    ofDefinition d = .ok t ↔ Represents t d := by
  rw [ofDefinition_eq_ok_iff]
  constructor
  · rintro rfl
    exact t.represents_definition
  · intro h
    rw [← t.rebuilt_eq_definition, h.rebuilt_eq]

/-- **Tables are made column by column.** A definition makes a table exactly if its
name is not blank and it has columns, none of which is blank, called like another or
called like the row identifier. Otherwise its name is to blame before its having no
columns, and that before the first bad column. The table is the one that represents
the definition, and its fields are those that adding the columns comes to. -/
theorem ofDefinition_by_columns (d : TableDefinition) :
    ((∃ t, ofDefinition d = .ok t) ↔
      isBlank d.name = false ∧ d.columns ≠ [] ∧ (∀ c ∈ d.columns, isBlank c.name = false) ∧
        (d.columns.map (·.name)).Nodup ∧ ∀ c ∈ d.columns, c.name ≠ "__row_id") ∧
    (∀ e, ofDefinition d = .error e ↔ Faulty d e.kind e) ∧
    (∀ t, ofDefinition d = .ok t ↔ Represents t d) ∧
    (ofDefinition d).map fields = grown d := by
  refine ⟨?_, fun _ => ofDefinition_eq_error_iff, fun _ => ofDefinition_eq_ok_iff_represents,
    map_fields_ofDefinition d⟩
  rw [exists_ofDefinition_iff]
  constructor
  · rintro ⟨hname, hcols, hblank, hnodup⟩
    exact ⟨hname, hcols, sound_iff.mp ⟨hblank, hnodup⟩⟩
  · rintro ⟨hname, hcols, hsound⟩
    obtain ⟨hblank, hnodup⟩ := sound_iff.mpr hsound
    exact ⟨hname, hcols, hblank, hnodup⟩

end QueryBind.Table
