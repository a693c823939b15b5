import QueryBind.Binding.Report
import QueryBind.Schema.Script
import QueryBind.Session
import QueryBind.SettingsDocument
import QueryBind.Text.Blank
import QueryBind.Text.Erasure

/-!
# The prompt

The prompt as a function from lines to what is printed. Backspaces in a line are carried out
first; where that cannot be done the run breaks off. A line that begins with a point, while no
statement is pending, is a command. Other lines are trimmed and gathered, with a space between
them, until one ends with a semicolon; then what was gathered runs as a script. The outcomes of a
script are printed once it has run to its end, and an error is printed in their stead.
-/

namespace QueryBind.Shell

open Text

/-! ## What is printed -/

/-- A text for the standard output or for the error output. -/
inductive Printed where
  | out (text : String)
  | err (text : String)
  deriving DecidableEq, Repr

def outLine (text : String) : Printed := .out (text ++ "\n")

def errLine (text : String) : Printed := .err (text ++ "\n")

/-- How bound statements are printed. -/
inductive OutputFormat where
  | table
  | json
  deriving DecidableEq, Repr

namespace OutputFormat

/-- The format of a name. -/
def ofName? : String → Option OutputFormat
  | "table" => some table
  | "json" => some json
  | _ => none

/-- The name of a format as the prompt shows it. -/
def label : OutputFormat → String
  | table => "Table"
  | json => "Json"

end OutputFormat

/-- An outcome in a format. -/
def printOutcome (format : OutputFormat) (outcome : Outcome) : List Printed :=
  match outcome, format with
  | .bound s, .json => [outLine s.summary.json.pretty]
  | .bound s, .table => [.out s.summary.report, outLine outcome.status]
  | _, _ => [outLine outcome.status]

/-! ## Fixed texts -/

def versionLine : String := "PrismDB Binder v0.1.0"

def banner : String :=
  versionLine ++ "\n" ++
  "Enter '.help' for usage hints.\n" ++
  "Enter SQL statements terminated with a semicolon (;)\n\n"

def helpText : String := "
.help                    Show this help message
.quit                    Exit this program
.exit                    Exit this program
.tables                  List all tables
.schema ?TABLE?          Show the CREATE statements (all tables or specific table)
.config                  Show the binder configuration
.format FORMAT           Set output format (table, json)
.version                 Show version information

SQL Statements:
  SELECT ... FROM ... [WHERE ...]   Bind a query and show the resolved fields
  CREATE TABLE t (col TYPE, ...)    Add a table to the catalog
  DROP TABLE t                      Remove a table from the catalog
  Statements end with a semicolon (;) and may span several lines

Keyboard Shortcuts:
  Ctrl+C                Cancel current statement
  Ctrl+D                Exit (same as .exit)
  Up/Down arrows        Navigate command history
"

/-! ## Commands and statements -/

/-- A session at the prompt, with the statement that is pending. -/
structure Prompt where
  session : Session
  format : OutputFormat
  pending : String := ""

/-- The prompt after a line, what was printed, and the exit code if that line ended the run. -/
structure Turn where
  prompt : Prompt
  printed : List Printed
  exitCode : Option Nat := none

/-- The tables of a catalog as CREATE TABLE statements, all of them or the one asked for. Above
each stands a comment with the time of its creation, which `stamp` says for its name. -/
def schemaText (stamp : String → String) (catalog : Catalog) (only : Option String) :
    List Printed :=
  (catalog.tables.filter fun t => only.all (· == t.name)).flatMap fun t =>
    [outLine ("-- created " ++ stamp t.name), outLine t.createStatement]

def tablesText (catalog : Catalog) : List Printed :=
  if catalog.tableNames.isEmpty then [outLine "No tables found"]
  else catalog.tableNames.map outLine

namespace Prompt

/-- Answers a command, given by its words. The time of creation is the same for all tables. -/
def command (stamp : String) (p : Prompt) (name : String) (arguments : List String) : Turn :=
  match name with
  | ".exit" | ".quit" => ⟨p, [outLine "Goodbye!"], some 0⟩
  | ".help" => ⟨p, [outLine helpText], none⟩
  | ".tables" => ⟨p, tablesText p.session.catalog, none⟩
  | ".schema" => ⟨p, schemaText (fun _ => stamp) p.session.catalog arguments.head?, none⟩
  | ".config" => ⟨p, [outLine p.session.settings.document], none⟩
  | ".format" =>
    match arguments.head? with
    | none => ⟨p, [outLine ("Current format: " ++ p.format.label)], none⟩
    | some word =>
      match OutputFormat.ofName? word.toLower with
      | some format => ⟨{ p with format }, [outLine ("Format set to: " ++ word)], none⟩
      | none => ⟨p, [errLine "Invalid format. Use: table or json"], none⟩
  | ".version" => ⟨p, [outLine versionLine], none⟩
  | _ =>
    ⟨p, [outLine ("Unknown command: " ++ name),
      outLine "Type '.help' for list of available commands."], none⟩

/-- Runs a script and prints its outcomes, or the error it ended with. -/
def runScript (p : Prompt) (script : String) (keys : Enumerations) :
    Except Error (List Printed) × Prompt :=
  let (outcomes, session) := p.session.executeScript script keys
  (outcomes.map (·.flatMap (printOutcome p.format)), { p with session })

/-- Answers a line without backspaces. -/
def step (stamp : String) (p : Prompt) (line : String) (keys : Enumerations) : Turn :=
  let trimmed := trim line
  if p.pending.isEmpty && trimmed.startsWith "." then
    let parts := words trimmed
    p.command stamp (parts.headD "") parts.tail
  else if trimmed.isEmpty then ⟨p, [], none⟩
  else
    let gathered := if p.pending.isEmpty then trimmed else p.pending ++ " " ++ trimmed
    if trimmed.endsWith ";" then
      let (printed, p') := p.runScript gathered keys
      let p'' := { p' with pending := "" }
      match printed with
      | .ok texts => ⟨p'', texts, none⟩
      | .error e => ⟨p'', [errLine ("Error: " ++ e.message)], none⟩
    else ⟨{ p with pending := gathered }, [], none⟩

/-- Answers a line as it was typed. -/
def answer (stamp : String) (p : Prompt) (line : String) (keys : Enumerations) : Turn :=
  match erased? line with
  | some text => p.step stamp text keys
  | none => ⟨p, [errLine "broken off: a backspace cuts a character in two"], some 101⟩

/-- Answers the end of the input. -/
def close : Nat × List Printed := (0, [outLine "exit"])

/-- The exit code of a run, and what is printed, for all lines of an input up to one that ends the
run or to the end of the input. The statements that line `i` runs are given `keys i`. -/
def converse (stamp : String) (p : Prompt) (lines : List String) (keys : Nat → Enumerations) :
    Nat × List Printed :=
  match lines with
  | [] => close
  | line :: rest =>
    let turn := p.answer stamp line (keys 0)
    match turn.exitCode with
    | some exitCode => (exitCode, turn.printed)
    | none =>
      let (exitCode, printed) := turn.prompt.converse stamp rest fun i => keys (i + 1)
      (exitCode, turn.printed ++ printed)

end Prompt

end QueryBind.Shell
