import QueryBind.Error

/-!
# Conversion of literals

A literal that is compared with a field is first converted towards the type of the field: a
string becomes a date for a date field, an integer becomes wider, and for the floating types it
becomes a double. Whatever else is comparable stays as it is, and the rest is refused. NULL stays
NULL for every type.
-/

namespace QueryBind

namespace Literal

/-- The literal as it is compared with a field of a type. -/
def convertFor (v : Literal) (target : ColumnType) : Except Error Literal :=
  match v, target with
  | null, _ => .ok null
  | varchar s, .date =>
    match ofDateText? s with
    | some d => .ok d
    | none => .error (.badDate s)
  | integer n, .bigint => .ok (bigint n.toInt64)
  | integer n, .float | integer n, .double => .ok (double (.ofInt n.toInt))
  | bigint n, .float | bigint n, .double => .ok (double (.ofInt n.toInt))
  | v, target =>
    if v.type.isComparableWith target then .ok v else .error (.literalMismatch v target)

end Literal

end QueryBind
