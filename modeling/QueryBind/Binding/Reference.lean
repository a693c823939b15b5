import QueryBind.Binding.Aggregation
import QueryBind.Schema.Table

/-!
# References to fields

A reference is a table and the index of one of its fields. Two references are equal when their
tables have the same name and their indices agree. A bound field is a reference with an
aggregation, which is what a projection is made of.
-/

namespace QueryBind

/-- A field of a table, by its index. -/
structure FieldRef where
  table : Table
  index : Nat
  index_lt : index < table.fields.length

namespace FieldRef

/-- Equal table names and equal indices. -/
instance : BEq FieldRef where
  beq r s := r.table.name == s.table.name && r.index == s.index

/-- The reference to an index, if the table has that many fields. -/
def of? (table : Table) (index : Nat) : Option FieldRef :=
  if h : index < table.fields.length then some ⟨table, index, h⟩ else none

def field (r : FieldRef) : Field := r.table.fields.get ⟨r.index, r.index_lt⟩

/-- The table and the field with a dot between them. -/
def text (r : FieldRef) : String := r.table.name ++ "." ++ r.field.name

end FieldRef

namespace Table

/-- The reference to the hidden field. -/
def rowIdRef (t : Table) : FieldRef := ⟨t, 0, by simp [fields]⟩

/-- References to the fields that a wildcard stands for, in order. -/
def userRefs (t : Table) : List FieldRef :=
  ((List.finRange t.fields.length).drop systemFieldCount).map fun i : Fin _ => ⟨t, i.val, i.isLt⟩

/-- The reference to the field of a name. -/
def ref? (t : Table) (name : String) : Option FieldRef :=
  (t.fieldIndex? name).bind (FieldRef.of? t)

end Table

/-- An entry of a resolved projection. -/
structure BoundField where
  ref : FieldRef
  aggregation : Aggregation
  deriving BEq

/-- The field, in the call that its aggregation stands for. -/
def BoundField.text (f : BoundField) : String :=
  match f.aggregation with
  | .none => f.ref.text
  | .countAll => "COUNT(" ++ f.ref.table.name ++ ".*)"
  | .function g => g.text ++ "(" ++ f.ref.text ++ ")"

end QueryBind
