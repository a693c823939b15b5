import QueryBind.Json.Value
import QueryBind.Number.Numeral

/-!
# Records in JSON

How records, alternatives, lists and lengths are read from JSON values. A record with given
field names is an object, in which none of these names stands twice, or an array with the first
fields in order. An alternative is its name as a string, or an object with its name as the only
key and what belongs to it as the value.
-/

namespace QueryBind.Json

/-- The fields of a record by their names; a field that is not there is given as nothing. Other
keys are passed over, or refused if `closed`. -/
def Value.record? (closed : Bool) (names : List String) : Value → Option (List (Option Value))
  | .array items =>
    if items.length ≤ names.length then some ((List.range names.length).map (items[·]?)) else none
  | .object members =>
    if closed && members.any (!names.contains ·.1) then none
    else
      names.mapM fun name =>
        match members.filter (·.1 == name) with
        | [] => some none
        | [(_, value)] => some (some value)
        | _ => none
  | _ => none

/-- The name of an alternative and what belongs to it. -/
def Value.alternative? : Value → Option (String × Option Value)
  | .string name => some (name, none)
  | .object [(name, value)] => some (name, some value)
  | _ => none

/-- The name of an alternative to which nothing belongs. -/
def Value.name? (v : Value) : Option String :=
  match v.alternative? with
  | some (name, none) => some name
  | some (name, some .null) => some name
  | _ => none

def Value.string? : Value → Option String
  | .string s => some s
  | _ => none

def Value.boolean? : Value → Option Bool
  | .boolean b => some b
  | _ => none

/-- A list of values that are all read in one way. -/
def Value.list? {α : Type} (read? : Value → Option α) : Value → Option (List α)
  | .array items => items.mapM read?
  | _ => none

/-- A length: a number of 64 bits without sign, point and power. -/
def Value.length? : Value → Option Nat
  | .number numeral => Number.length? numeral
  | _ => none

end QueryBind.Json
