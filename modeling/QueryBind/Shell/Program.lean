import QueryBind.Schema.Catalog
import QueryBind.Schema.Document
import QueryBind.Shell.Surroundings

/-!
# The program

A run of the program from its arguments and its surroundings. The settings are read first, then
the catalog, then the opening script is run; a failure there ends the run. With a query the query
runs, otherwise the prompt begins if it is asked for, on the lines of the standard input.
-/

namespace QueryBind.Shell

/-- How a run goes on once it has begun: it has ended with an exit code, or the prompt waits for
lines. -/
inductive Begun where
  | ended (exitCode : Nat) (printed : List Printed)
  | prompting (printed : List Printed) (p : Prompt)

namespace Options

/-- The settings of a run: those of the file, with what the options say on top. -/
def settings (o : Options) (texts : FileTexts) : Except Error Settings := do
  let fromFile : Settings ←
    match o.config with
    | none => pure {}
    | some path =>
      match texts.config with
      | none => throw .missingFile
      | some text =>
        match Settings.ofText text with
        | .ok s => pure s
        | .error _ => throw (.unreadableSettings (some path))
  let order := o.projectionOrder.getD fromFile.projectionOrder
  let policy := if o.rejectDuplicateTables then .reject else fromFile.repeatedTables
  return { projectionOrder := order, repeatedTables := policy }

end Options

/-- The catalog that the text of a file defines. -/
def loadCatalog (path : String) (text : Option String) : Except Error Catalog :=
  match text with
  | none => .error .missingFile
  | some text =>
    match CatalogDefinition.ofText? text with
    | none => .error (.unreadableCatalog path)
    | some definition => Catalog.ofDefinition definition

/-- A text with each of its lines moved to the right. -/
def indented (text : String) : String :=
  "    " ++ String.ofList (text.toList.flatMap fun c => if c = '\n' then "\n    ".toList else [c])

/-- The end of a run that could not begin. The cause, if there is one behind the message, is
printed below it, indented. -/
def failed (message : String) (cause : Option String) : Begun :=
  let below :=
    match cause with
    | none => []
    | some text => [errLine ("\nCaused by:\n" ++ indented text)]
  .ended 1 (errLine ("Error: " ++ message) :: below)

namespace Options

/-- The session that a run begins with. -/
def openSession (o : Options) (texts : FileTexts) (keys : Enumerations) :
    Except Begun Session := do
  let settings ←
    match o.settings texts with
    | .ok s => pure s
    | .error e => throw (failed e.message none)
  let catalog ←
    match o.schema with
    | none => pure Catalog.empty
    | some path =>
      match loadCatalog path texts.schema with
      | .ok c => pure c
      | .error e => throw (failed ("loading schema " ++ path) (some e.message))
  let session : Session := ⟨catalog, settings⟩
  match o.init with
  | none => return session
  | some path =>
    match texts.init with
    | none => throw (failed ("reading " ++ path) (some Error.missingFile.detail))
    | some script =>
      match session.executeScript script keys with
      | (.ok _, session') => return session'
      | (.error e, _) => throw (failed e.message none)

/-- Begins a run. The opening script is given `keys 0`, the query `keys 1`. -/
def start (o : Options) (texts : FileTexts) (keys : Nat → Enumerations) : Begun :=
  match o.openSession texts (keys 0) with
  | .error begun => begun
  | .ok session =>
    let p : Prompt := { session, format := o.format.getD .table }
    match o.query with
    | some query =>
      match (p.runScript query (keys 1)).1 with
      | .ok printed => .ended 0 printed
      | .error e => .ended 1 [errLine ("Error: " ++ e.message)]
    | none =>
      if o.interactive then .prompting [.out banner] p
      else .ended 1 [outLine "Please provide either --query or --interactive flag"]

end Options

/-- The exit code of a run that the arguments stop, and what it prints. -/
def Stop.ending : Stop → Nat × List Printed
  | .help => (0, [outLine usage])
  | .version => (0, [outLine programVersion])
  | .wrong fault => (2, [errLine fault.report])

/-- A whole run: its exit code and all that it prints. The texts of statements that it runs, one
after another, are given one member of `keys` each. -/
def run (stamp : String) (arguments : List String) (s : Surroundings)
    (keys : Nat → Enumerations := fun _ => .listed) : Nat × List Printed :=
  match Options.ofArguments arguments with
  | .error stop => stop.ending
  | .ok o =>
    let (texts, s') := o.readFiles s
    match o.start texts keys with
    | .ended exitCode printed => (exitCode, printed)
    | .prompting printed p =>
      let (exitCode, printed') := p.converse stamp (Text.linesOf s'.input) fun i => keys (i + 1)
      (exitCode, printed ++ printed')

end QueryBind.Shell
