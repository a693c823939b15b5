import QueryBind.Error
import QueryBind.Schema.Definition

/-!
# Tables

A table is a definition that passed the checks of `Table.ofDefinition`: its name is not blank, it
has a column, no column name is blank, and the column names differ from one another and from the
name of the hidden row identifier. Its fields are that row identifier, at index 0 and shown to no
wildcard, followed by the columns in order.
-/

namespace QueryBind

open Text

/-- The name of the hidden field that every table begins with. -/
def rowIdName : String := "__row_id"

/-- Number of hidden fields at the front of a table. -/
def systemFieldCount : Nat := 1

/-- A field of a table. Its index counts the hidden fields too. -/
structure Field where
  name : String
  type : ColumnType
  nullable : Bool
  index : Nat
  visible : Bool
  deriving DecidableEq, Repr

def Field.rowId : Field := ⟨rowIdName, .bigint, false, 0, false⟩

/-! ## Which definitions make a table -/

/-- What a definition has to meet to make a table. -/
structure TableDefinition.IsValid (d : TableDefinition) : Prop where
  name_not_blank : isBlank d.name = false
  columns_ne_nil : d.columns ≠ []
  column_not_blank : ∀ c ∈ d.columns, isBlank c.name = false
  names_nodup : (rowIdName :: d.columns.map (·.name)).Nodup

/-- The fault of the first bad column, after columns with the names `seen`: a blank name, or one
that was seen before. -/
def columnFault? (table : String) (seen : List String) : List ColumnDefinition → Option Error
  | [] => none
  | c :: cs =>
    if isBlank c.name then some (.blankColumnName table)
    else if c.name ∈ seen then some (.repeatedColumn c.name table)
    else columnFault? table (seen ++ [c.name]) cs

theorem columnFault?_eq_none_iff {table : String} {seen : List String}
    {cs : List ColumnDefinition} :
    columnFault? table seen cs = none ↔
      (∀ c ∈ cs, isBlank c.name = false) ∧ (∀ c ∈ cs, c.name ∉ seen) ∧
        (cs.map (·.name)).Nodup := by
  induction cs generalizing seen with
  | nil => simp [columnFault?]
  | cons c cs ih =>
    unfold columnFault?
    by_cases hb : isBlank c.name = true
    · simp [hb]
    · by_cases hs : c.name ∈ seen
      · simp [hb, hs]
      · rw [if_neg hb, if_neg hs, ih]
        simp only [List.map_cons, List.nodup_cons]
        grind

/-- A definition that makes a table. -/
structure Table where
  definition : TableDefinition
  valid : definition.IsValid

namespace Table

/-- The table of a definition, or the first fault of the definition. -/
def ofDefinition (d : TableDefinition) : Except Error Table :=
  if hname : isBlank d.name = true then .error .blankTableName
  else if hcols : d.columns = [] then .error (.noColumns d.name)
  else
    match hfault : columnFault? d.name [rowIdName] d.columns with
    | some fault => .error fault
    | none =>
      .ok ⟨d, by
        obtain ⟨hblank, hseen, hnodup⟩ := columnFault?_eq_none_iff.1 hfault
        refine ⟨by simpa using hname, hcols, hblank, List.nodup_cons.2 ⟨?_, hnodup⟩⟩
        intro hmem
        obtain ⟨c, hc, heq⟩ := List.mem_map.1 hmem
        exact hseen c hc (by simp [heq])⟩

def name (t : Table) : String := t.definition.name

/-- All fields, the hidden one first. -/
def fields (t : Table) : List Field :=
  .rowId :: t.definition.columns.mapIdx fun i c =>
    ⟨c.name, c.type, c.nullable, i + systemFieldCount, true⟩

def fieldCount (t : Table) : Nat := t.fields.length

/-- The fields that a wildcard stands for. -/
def userFields (t : Table) : List Field := t.fields.drop systemFieldCount

def fieldAt? (t : Table) (index : Nat) : Option Field := t.fields[index]?

def field? (t : Table) (name : String) : Option Field := t.fields.find? (·.name == name)

/-- The place of a field among all fields. -/
def fieldIndex? (t : Table) (name : String) : Option Nat :=
  t.fields.findIdx? (·.name == name)

def hasField (t : Table) (name : String) : Bool := (t.field? name).isSome

/-- The column that a field was made from. -/
def columnOf (f : Field) : ColumnDefinition := ⟨f.name, f.type, f.nullable⟩

/-- The definition read back off the name and the visible fields. -/
def rebuilt (t : Table) : TableDefinition := ⟨t.name, t.userFields.map columnOf⟩

theorem fields_length (t : Table) : t.fields.length = t.definition.columns.length + 1 := by
  simp [fields]

end Table

end QueryBind
