import QueryBind.Settings
import QueryBind.Shell.Prompt

/-!
# Command line arguments

The options of the command line. A long option is written with two minus signs, and its value
follows in the next argument or after an equals sign. Short options have one minus sign and may
be written together; the last of them may be followed by its value, with or without an equals
sign or in the next argument. A value in an argument of its own does not begin with a minus sign,
unless it is nothing else. No option is given twice, and there are no other arguments. What is met
first, a fault or a question for help or the version, decides.
-/

namespace QueryBind.Shell

/-! ## Options -/

inductive OptionName where
  | schema | init | query | interactive | config | projectionOrder | rejectDuplicateTables
  | format | verbose | help | version
  deriving DecidableEq, Repr

namespace OptionName

def ofLong? : String → Option OptionName
  | "schema" => some schema
  | "init" => some init
  | "query" => some query
  | "interactive" => some interactive
  | "config" => some config
  | "projection-order" => some projectionOrder
  | "reject-duplicate-tables" => some rejectDuplicateTables
  | "format" => some format
  | "verbose" => some verbose
  | "help" => some help
  | "version" => some version
  | _ => none

def ofShort? : Char → Option OptionName
  | 's' => some schema
  | 'q' => some query
  | 'i' => some interactive
  | 'c' => some config
  | 'f' => some format
  | 'v' => some verbose
  | 'h' => some help
  | 'V' => some version
  | _ => none

def takesValue : OptionName → Bool
  | schema | init | query | config | projectionOrder | format => true
  | _ => false

/-- An option as messages show it, with a name for its value if it takes one. -/
def shown : OptionName → String
  | schema => "--schema <SCHEMA>"
  | init => "--init <INIT>"
  | query => "--query <QUERY>"
  | interactive => "--interactive"
  | config => "--config <CONFIG>"
  | projectionOrder => "--projection-order <PROJECTION_ORDER>"
  | rejectDuplicateTables => "--reject-duplicate-tables"
  | format => "--format <FORMAT>"
  | verbose => "--verbose"
  | help => "--help"
  | version => "--version"

end OptionName

/-- The options given; what is not given is absent or false. -/
structure Options where
  schema : Option String := none
  init : Option String := none
  query : Option String := none
  interactive : Bool := false
  config : Option String := none
  projectionOrder : Option ProjectionOrder := none
  rejectDuplicateTables : Bool := false
  format : Option OutputFormat := none
  verbose : Bool := false

/-- What is wrong with arguments. -/
inductive Fault where
  | unexpected (argument : String)
  | repeated (name : OptionName)
  | withoutValue (name : OptionName)
  | unneededValue (name : OptionName) (value : String)
  | unknownFormat (value : String)
  | unknownOrder (value : String) (error : Error)

/-- Why the arguments lead to no run: help or the version is asked for, or they are wrong. -/
inductive Stop where
  | help
  | version
  | wrong (fault : Fault)

namespace Options

/-- An option of which nothing was given before. -/
def once (name : OptionName) (isGiven : Bool) : Except Stop Unit :=
  if isGiven then .error (.wrong (.repeated name)) else .ok ()

/-- A path, which is not empty, where none was given before. -/
def path (name : OptionName) (before : Option String) (value : String) :
    Except Stop (Option String) := do
  once name before.isSome
  if value.isEmpty then .error (.wrong (.withoutValue name)) else .ok (some value)

/-- Sets a flag that is not set yet. -/
def setFlag (o : Options) (name : OptionName) : Except Stop Options :=
  match name with
  | .interactive => do
    once name o.interactive
    return { o with interactive := true }
  | .rejectDuplicateTables => do
    once name o.rejectDuplicateTables
    return { o with rejectDuplicateTables := true }
  | .verbose => do
    once name o.verbose
    return { o with verbose := true }
  | .help => .error .help
  | .version => .error .version
  | _ => .error (.wrong (.withoutValue name))

/-- Sets an option that has no value yet. -/
def setValue (o : Options) (name : OptionName) (value : String) : Except Stop Options :=
  match name with
  | .schema => (path name o.schema value).map fun v => { o with schema := v }
  | .init => (path name o.init value).map fun v => { o with init := v }
  | .config => (path name o.config value).map fun v => { o with config := v }
  | .query => do
    once name o.query.isSome
    return { o with query := some value }
  | .projectionOrder => do
    once name o.projectionOrder.isSome
    match ProjectionOrder.ofText value with
    | .ok order => return { o with projectionOrder := some order }
    | .error e => .error (.wrong (.unknownOrder value e))
  | .format => do
    once name o.format.isSome
    match OutputFormat.ofName? value with
    | some format => return { o with format := some format }
    | none => .error (.wrong (.unknownFormat value))
  | _ => .error (.wrong (.unneededValue name value))

/-- An argument that is read as options and not as a value. -/
def looksLikeOption (argument : String) : Bool := argument.startsWith "-" && argument != "-"

/-- The fault where an option waits for its value and what follows is read as options. If that is
none of the known options, it is the fault. -/
def refusal (name : OptionName) (argument : String) : Fault :=
  match argument.toList with
  | ['-', '-'] => .withoutValue name
  | '-' :: '-' :: body =>
    let word := String.ofList (body.takeWhile (· != '='))
    match OptionName.ofLong? word with
    | none => .unexpected ("--" ++ word)
    | some other =>
      match body.dropWhile (· != '='), other.takesValue with
      | _ :: value, false => .unneededValue other (String.ofList value)
      | _, _ => .withoutValue name
  | '-' :: c :: _ =>
    if (OptionName.ofShort? c).isNone then .unexpected (String.ofList ['-', c])
    else .withoutValue name
  | _ => .withoutValue name

/-- Short options written together: the options with the flags set, and the last one with what
follows it if it takes a value. -/
def setShort (o : Options) : List Char → Except Stop (Options × Option (OptionName × List Char))
  | [] => .ok (o, none)
  | c :: rest =>
    match OptionName.ofShort? c with
    | none => .error (.wrong (.unexpected (String.ofList ['-', c])))
    | some name =>
      if name.takesValue then .ok (o, some (name, rest))
      else
        match o.setFlag name with
        | .error stop => .error stop
        | .ok o' => o'.setShort rest

/-- Reads arguments into options that have been read before. -/
def read (o : Options) (arguments : List String) : Except Stop Options :=
  match arguments with
  | [] => .ok o
  | argument :: rest =>
    match argument.toList with
    | ['-'] => .error (.wrong (.unexpected argument))
    | ['-', '-'] =>
      match rest with
      | [] => .ok o
      | value :: _ => .error (.wrong (.unexpected value))
    | '-' :: '-' :: body =>
      let word := String.ofList (body.takeWhile (· != '='))
      match OptionName.ofLong? word with
      | none => .error (.wrong (.unexpected ("--" ++ word)))
      | some name =>
        match body.dropWhile (· != '='), name.takesValue with
        | [], false => do (← o.setFlag name).read rest
        | _ :: value, false => .error (.wrong (.unneededValue name (String.ofList value)))
        | _ :: value, true => do (← o.setValue name (String.ofList value)).read rest
        | [], true =>
          match rest with
          | [] => .error (.wrong (.withoutValue name))
          | value :: rest' =>
            if looksLikeOption value then .error (.wrong (refusal name value))
            else do (← o.setValue name value).read rest'
    | '-' :: body => do
      match ← o.setShort body with
      | (o', none) => o'.read rest
      | (o', some (name, '=' :: value)) => (← o'.setValue name (String.ofList value)).read rest
      | (o', some (name, c :: value)) =>
        (← o'.setValue name (String.ofList (c :: value))).read rest
      | (o', some (name, [])) =>
        match rest with
        | [] => .error (.wrong (.withoutValue name))
        | value :: rest' =>
          if looksLikeOption value then .error (.wrong (refusal name value))
          else (← o'.setValue name value).read rest'
    | _ => .error (.wrong (.unexpected argument))
termination_by arguments.length

/-- The options of a command line. -/
def ofArguments (arguments : List String) : Except Stop Options := ({} : Options).read arguments

end Options

/-! ## Texts -/

def programName : String := "prism-bind"

def usage : String := "PrismDB Binder - resolve SELECT statements against a catalog

Usage: prism-bind [OPTIONS]

Options:
  -s, --schema <SCHEMA>
          JSON schema file describing the catalog
      --init <INIT>
          SQL file with CREATE TABLE statements run at startup
  -q, --query <QUERY>
          SQL to bind or execute
  -i, --interactive
          Run in interactive mode
  -c, --config <CONFIG>
          JSON binder configuration file
      --projection-order <PROJECTION_ORDER>
          Order of the resolved projection (visitation or source)
      --reject-duplicate-tables
          Fail when the FROM list repeats a table
  -f, --format <FORMAT>
          Output format for bound statements [default: table] [possible values: table, json]
  -v, --verbose
          Enable debug logging on stderr
  -h, --help
          Print help
  -V, --version
          Print version"

def programVersion : String := programName ++ " 0.1.0"

/-- What a fault is, in words. -/
def Fault.message : Fault → String
  | unexpected argument => "unexpected argument '" ++ argument ++ "' found"
  | repeated name => "the argument '" ++ name.shown ++ "' cannot be used multiple times"
  | withoutValue name => "a value is required for '" ++ name.shown ++ "' but none was supplied"
  | unneededValue name value =>
    "unexpected value '" ++ value ++ "' for '" ++ name.shown ++ "' found; no more were expected"
  | unknownFormat value =>
    "invalid value '" ++ value ++ "' for '" ++ OptionName.format.shown ++
      "'\n  [possible values: table, json]"
  | unknownOrder value e =>
    "invalid value '" ++ value ++ "' for '" ++ OptionName.projectionOrder.shown ++ "': " ++
      e.message

/-- A fault as it is printed. -/
def Fault.report (f : Fault) : String :=
  "error: " ++ f.message ++ "\n\nFor more information, try '--help'."

end QueryBind.Shell
