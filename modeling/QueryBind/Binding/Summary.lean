import QueryBind.Binding.Select
import QueryBind.Json.Value

/-!
# Summaries

What a bound SELECT shows of itself: the names of its tables, a line of four texts for each
field, whether it aggregates, and the text of its filter.
-/

namespace QueryBind

structure FieldSummary where
  table : String
  field : String
  type : String
  aggregation : String
  deriving DecidableEq, Repr

structure Summary where
  tables : List String
  fields : List FieldSummary
  isAggregate : Bool
  filter : String
  deriving DecidableEq, Repr

def BoundField.summary (f : BoundField) : FieldSummary :=
  ⟨f.ref.table.name, f.ref.field.name, f.ref.field.type.text, f.aggregation.text⟩

def BoundSelect.summary (s : BoundSelect) : Summary :=
  { tables := s.tables.map (·.name)
    fields := s.fields.map (·.summary)
    isAggregate := s.isAggregate
    filter := s.filter.text }

open Json

def FieldSummary.json (f : FieldSummary) : Value :=
  .object
    [("table", .string f.table), ("field", .string f.field), ("field_type", .string f.type),
      ("aggregation", .string f.aggregation)]

def Summary.json (s : Summary) : Value :=
  .object
    [("tables", .array (s.tables.map .string)), ("fields", .array (s.fields.map (·.json))),
      ("is_aggregate", .boolean s.isAggregate), ("filter", .string s.filter)]

end QueryBind
