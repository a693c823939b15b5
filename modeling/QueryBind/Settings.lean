import QueryBind.Error
import QueryBind.Text.Lowercase

/-!
# Settings

Two decisions that the binding of a SELECT leaves open: in which order the fields of the
projection come out, and what happens when FROM names a table twice.
-/

namespace QueryBind

/-- Attributes are visited from last to first; their fields come out in that order or turned
back to the order of the SELECT list. -/
inductive ProjectionOrder where
  | visitation
  | source
  deriving DecidableEq, Repr

namespace ProjectionOrder

def text : ProjectionOrder → String
  | visitation => "visitation"
  | source => "source"

/-- The order that a word names, in any letter case. -/
def ofText (word : String) : Except Error ProjectionOrder :=
  match Text.lowercase word with
  | "visitation" | "reverse" | "reversed" => .ok visitation
  | "source" | "sql" => .ok source
  | _ => .error (.unknownOrder word)

end ProjectionOrder

/-- A repeated relation keeps every entry, its name standing for the last one, or is refused. -/
inductive RepeatPolicy where
  | lastWins
  | reject
  deriving DecidableEq, Repr

def RepeatPolicy.text : RepeatPolicy → String
  | lastWins => "last_wins"
  | reject => "reject"

structure Settings where
  projectionOrder : ProjectionOrder := .visitation
  repeatedTables : RepeatPolicy := .lastWins
  deriving DecidableEq, Repr

end QueryBind
