import QueryBind.Binding.Filter
import QueryBind.Binding.Projection

/-!
# Bound SELECT statements

The binding of a SELECT: relations first, then the projection, then the conditions. The first
failure is the outcome, and a statement is given only if nothing failed.
-/

namespace QueryBind

open Sql

/-- A SELECT all of whose names are resolved. -/
structure BoundSelect where
  tables : List Table
  fields : List BoundField
  filter : Filter
  isAggregate : Bool

/-- Tables count by their names, all else by its own equality. -/
instance : BEq BoundSelect where
  beq s t :=
    s.tables.map (·.name) == t.tables.map (·.name) && s.fields == t.fields &&
      s.filter == t.filter && s.isAggregate == t.isAggregate

/-- Turns the conditions of a SELECT into a filter, given what they may consult. -/
abbrev ConditionBinder := Scope → List Condition → Except Error Filter

/-- What a SELECT is bound with. Without a source of tables every binding fails. -/
structure Binder where
  source? : Option TableSource
  settings : Settings := {}
  conditions : ConditionBinder := Scope.bindConditions

/-- The bound form of a SELECT, where `keys` is the order of the map of its relations. -/
def Binder.bindSelect (b : Binder) (s : Select) (keys : Enumeration := .listed) :
    Except Error BoundSelect := do
  match b.source? with
  | none => throw .noCatalog
  | some source =>
    let relations ← Relations.resolve source b.settings.repeatedTables s.relations keys
    let projection ← Projection.resolve relations b.settings.projectionOrder s.attributes
    let filter ← b.conditions (Scope.ofRelations source relations) s.conditions
    return ⟨relations.tables, projection.fields, filter, projection.isAggregate⟩

end QueryBind
