import QueryBind.Binding.Select
import QueryBind.Sql.Sentence

/-!
# Sessions

A session is a catalog with settings. CREATE TABLE and DROP TABLE change the catalog, SELECT is
bound against it. A refused statement leaves the session as it was. A script is read as a whole
before anything in it runs; then its statements run in turn up to the first that is refused, and
what ran before stays done. Each statement is given the enumeration of the map that it makes if it
is a SELECT.
-/

namespace QueryBind

open Sql

/-- What a statement came to. -/
inductive Outcome where
  | created (table : String)
  | dropped (table : String)
  | bound (statement : BoundSelect)

/-- One line about an outcome. -/
def Outcome.status : Outcome → String
  | created table => "Table '" ++ table ++ "' created"
  | dropped table => "Table '" ++ table ++ "' dropped"
  | bound s => s!"Bound {s.fields.length} field(s) over {s.tables.length} table(s)"

structure Session where
  catalog : Catalog
  settings : Settings := {}

namespace Session

def binder (s : Session) : Binder := { source? := some s.catalog.source, settings := s.settings }

/-- Runs a statement: what it came to, and the session after it. -/
def run (s : Session) (statement : Statement) (keys : Enumeration := .listed) :
    Except Error (Outcome × Session) :=
  match statement with
  | .select select => do
    return (.bound (← s.binder.bindSelect select keys), s)
  | .createTable definition => do
    let catalog ← s.catalog.createTable definition
    return (.created definition.name, { s with catalog })
  | .dropTable name => do
    let catalog ← s.catalog.dropTable name
    return (.dropped name, { s with catalog })

/-- Runs statements in turn. The session after them is given in any case; it has the effects of
all statements before the first that was refused. -/
def runAll (s : Session) (statements : List Statement) (keys : Enumerations := .listed) :
    Except Error (List Outcome) × Session :=
  match statements with
  | [] => (.ok [], s)
  | statement :: rest =>
    match s.run statement (keys 0) with
    | .error e => (.error e, s)
    | .ok (outcome, s') =>
      let (outcomes, last) := s'.runAll rest keys.tail
      (outcomes.map (outcome :: ·), last)

/-- Runs the one statement of a text. -/
def execute (s : Session) (text : String) (keys : Enumeration := .listed) :
    Except Error (Outcome × Session) :=
  match Statement.ofText text with
  | .error e => .error (.parse e)
  | .ok statement => s.run statement keys

/-- Runs the statements of a text. -/
def executeScript (s : Session) (text : String) (keys : Enumerations := .listed) :
    Except Error (List Outcome) × Session :=
  match Statement.ofScript text with
  | .error e => (.error (.parse e), s)
  | .ok statements => s.runAll statements keys

/-- Binds the one SELECT of a text. -/
def bind (s : Session) (text : String) (keys : Enumeration := .listed) :
    Except Error BoundSelect :=
  match Statement.ofText text with
  | .error e => .error (.parse e)
  | .ok (.select select) => s.binder.bindSelect select keys
  | .ok _ => .error .notASelect

end Session

end QueryBind
