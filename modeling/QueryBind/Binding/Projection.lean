import QueryBind.Binding.Reference
import QueryBind.Binding.Relations
import QueryBind.Text.Resemblance

/-!
# Projections

The fields that the attributes of a SELECT list stand for. A column is found in the table of its
qualifier, or in the default table if it has none; a wildcard stands for the visible fields of
one table or of all tables, in order. Attributes are visited from last to first, and the first
one visited that is faulty decides the error. Either all attributes are aggregated or none is.
-/

namespace QueryBind

open Sql Text

/-! ## One attribute -/

/-- The field of a name in a table. A field like it is suggested if there is none. -/
def Table.lookup (t : Table) (name : String) : Except Error FieldRef :=
  match t.ref? name with
  | some r => .ok r
  | none => .error (.noSuchField name t.name (nearest? name (t.userFields.map (·.name))))

/-- What a wildcard stands for in one table: the hidden field if rows are counted, the visible
fields otherwise. -/
def Table.expand (t : Table) (aggregation : Aggregation) : List BoundField :=
  match aggregation with
  | .countAll => [⟨t.rowIdRef, .countAll⟩]
  | other => t.userRefs.map fun r => ⟨r, other⟩

/-- No function is applied to a wildcard, the counting of rows apart. -/
def checkWildcard : Aggregation → Except Error Unit
  | .none | .countAll => .ok ()
  | .function f => .error (.wildcardArgument f)

/-- The fields of an attribute, which stands at `index` and whose aggregation is known. -/
def resolveAttribute (relations : Relations) (index : Nat) (a : Attribute)
    (aggregation : Aggregation) : Except Error (List BoundField) := do
  if isBlank a.name then throw (.namelessAttribute index)
  match a.qualifier? with
  | none =>
    if isWildcard a.name then
      checkWildcard aggregation
      return relations.tables.flatMap (·.expand aggregation)
    match relations.default? with
    | none => throw (.ambiguousField relations.tables.length a.name)
    | some t => return [⟨← t.lookup a.name, aggregation⟩]
  | some relation =>
    if isWildcard relation then
      if !isWildcard a.name then throw (.fieldOfAllTables a.name)
      checkWildcard aggregation
      return relations.tables.flatMap (·.expand aggregation)
    match relations.find? relation with
    | none => throw (.relationNotListed relation (nearest? relation relations.keys))
    | some t =>
      if isWildcard a.name then
        checkWildcard aggregation
        return t.expand aggregation
      return [⟨← t.lookup a.name, aggregation⟩]

/-! ## The whole list -/

/-- A resolved projection. -/
structure Projection where
  fields : List BoundField
  isAggregate : Bool

namespace Projection

/-- The fields of attributes with their indices, one group for each, in the order visited.
`aggregated` tells of the attributes visited before whether they are aggregated; there is nothing
to tell before the first. -/
def visit (relations : Relations) (aggregated : Option Bool) :
    List (Attribute × Nat) → Except Error (List (List BoundField))
  | [] => .ok []
  | (a, index) :: rest => do
    let aggregation ← a.aggregation
    if aggregated.any (· != aggregation.isAggregate) then
      throw (.mixedAggregation a aggregation.isAggregate)
    let group ← resolveAttribute relations index a aggregation
    let groups ← visit relations (some aggregation.isAggregate) rest
    return group :: groups

/-- The last attribute is aggregated, and so all are if the list resolves. -/
def aggregates (attributes : List Attribute) : Bool :=
  match attributes.getLast? with
  | some a => !a.shape.isPlain
  | none => false

/-- The projection of a list of attributes. -/
def resolve (relations : Relations) (order : ProjectionOrder) (attributes : List Attribute) :
    Except Error Projection := do
  let groups ← visit relations none attributes.zipIdx.reverse
  let inOrder :=
    match order with
    | .visitation => groups
    | .source => groups.reverse
  return ⟨inOrder.flatten, aggregates attributes⟩

end Projection

end QueryBind
