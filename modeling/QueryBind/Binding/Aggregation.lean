import QueryBind.Error

/-!
# Aggregation

How a field takes part in aggregation once the shape of its attribute has been judged. Every
shape that is no call, or a call of one function on one attribute, has an aggregation; every other
shape deserves one error.
-/

namespace QueryBind

open Sql

/-- Not at all, as the counting of rows, or as the argument of a function. -/
inductive Aggregation where
  | none
  | countAll
  | function (f : AggregateFunction)
  deriving DecidableEq, Repr

namespace Aggregation

def isAggregate (a : Aggregation) : Bool := a != none

def text : Aggregation → String
  | none => "none"
  | countAll => "COUNT(*)"
  | function f => f.text

end Aggregation

/-- The aggregation of an attribute; counting a wildcard counts rows. -/
def Sql.Attribute.aggregation (a : Attribute) : Except Error Aggregation :=
  match a.shape with
  | .plain => .ok .none
  | .call f => if f = .count ∧ isWildcard a.name then .ok .countAll else .ok (.function f)
  | .nested _ _ => .error (.nestedAggregation a)
  | .multiple f count => .error (.manyArguments f count)
  | .malformed reason => .error (.malformedCall reason)

end QueryBind
