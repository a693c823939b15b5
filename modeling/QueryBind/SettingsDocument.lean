import QueryBind.Json.Document
import QueryBind.Json.Record
import QueryBind.Settings

/-!
# Settings documents

Settings in JSON: a record of `projection_order` and `duplicate_tables`, each by the name of its
choice. What is left out has its default, and no other key is allowed.
-/

namespace QueryBind

open Json

def ProjectionOrder.ofName? : String → Option ProjectionOrder
  | "visitation" => some .visitation
  | "source" => some .source
  | _ => none

def RepeatPolicy.ofName? : String → Option RepeatPolicy
  | "last_wins" => some .lastWins
  | "reject" => some .reject
  | _ => none

namespace Settings

def ofJson? (v : Value) : Option Settings := do
  match ← v.record? true ["projection_order", "duplicate_tables"] with
  | [order, policy] =>
    let defaults : Settings := {}
    let order ←
      match order with
      | some v => v.name?.bind ProjectionOrder.ofName?
      | none => some defaults.projectionOrder
    let policy ←
      match policy with
      | some v => v.name?.bind RepeatPolicy.ofName?
      | none => some defaults.repeatedTables
    return ⟨order, policy⟩
  | _ => none

/-- The settings that a text is a document of. -/
def ofText (text : String) : Except Error Settings :=
  match (Value.ofText? text).bind ofJson? with
  | some s => .ok s
  | none => .error (.unreadableSettings none)

/-- The document of settings, written over several lines. -/
def document (s : Settings) : String :=
  Value.pretty
    (.object
      [("projection_order", .string s.projectionOrder.text),
        ("duplicate_tables", .string s.repeatedTables.text)])

end Settings

end QueryBind
