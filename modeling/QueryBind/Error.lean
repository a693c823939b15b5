import QueryBind.Sql.ParseError
import QueryBind.Sql.Statement

/-!
# Errors

Every reason for which a request is refused, by its cause. `Error.kind` sorts the causes into the
ten kinds that callers branch on, and `Error.message` words them; all that a text names is an
argument of the cause.
-/

namespace QueryBind

open Sql

/-- The classes of errors that a caller can tell apart. -/
inductive ErrorKind where
  | invalidArgument
  | tableNotFound
  | fieldMissing
  | nestedAggregation
  | aggregationUnmatched
  | typeMismatch
  | parse
  | catalog
  | config
  | io
  deriving DecidableEq, Repr

inductive Error where
  /-- The text is no statement. -/
  | parse (cause : ParseError)
  /-- A string compared with a date writes no date. -/
  | badDate (text : String)
  /-- A literal cannot be compared with fields of a type. -/
  | literalMismatch (value : Literal) (target : ColumnType)
  | blankTableName
  | noColumns (table : String)
  | blankColumnName (table : String)
  | repeatedColumn (column table : String)
  | tableExists (table catalog : String)
  | tableMissing (table catalog : String)
  /-- There is no catalog to resolve names against. -/
  | noCatalog
  | blankRelation (index : Nat)
  | repeatedRelation (name : String) (index : Nat)
  | nestedAggregation (a : Attribute)
  | manyArguments (f : AggregateFunction) (count : Nat)
  | malformedCall (reason : String)
  /-- An attribute is aggregated and one visited before it is not, or the other way round. -/
  | mixedAggregation (a : Attribute) (isAggregate : Bool)
  | namelessAttribute (index : Nat)
  /-- A function other than COUNT is applied to a wildcard. -/
  | wildcardArgument (f : AggregateFunction)
  /-- A name without qualifier could belong to any of several tables, or there is none. -/
  | ambiguousField (tables : Nat) (name : String)
  /-- A wildcard qualifies a name that is no wildcard. -/
  | fieldOfAllTables (name : String)
  | relationNotListed (name : String) (suggestion : Option String)
  | noSuchField (name table : String) (suggestion : Option String)
  | aggregateInCondition (a : Attribute)
  | wildcardInCondition (a : Attribute)
  | unqualifiedInCondition (name : String)
  | patternOperand (comparison : Comparison) (type : ColumnType)
  /-- The two sides of a condition, as shown, have types that do not compare. -/
  | incomparable (left : String) (leftType : ColumnType) (right : String) (rightType : ColumnType)
  | notASelect
  /-- A condition binder supplied by the caller refuses. -/
  | refused (reason : String)
  | unknownOrder (text : String)
  /-- A text is no settings document; `source` names the file it came from. -/
  | unreadableSettings (source : Option String)
  /-- A text is no catalog document; `source` names the file it came from. -/
  | unreadableCatalog (source : String)
  | missingFile

namespace Error

def kind : Error → ErrorKind
  | parse _ => .parse
  | badDate _ => .invalidArgument
  | literalMismatch _ _ => .typeMismatch
  | blankTableName => .invalidArgument
  | noColumns _ => .catalog
  | blankColumnName _ => .invalidArgument
  | repeatedColumn _ _ => .catalog
  | tableExists _ _ => .catalog
  | tableMissing _ _ => .tableNotFound
  | noCatalog => .invalidArgument
  | blankRelation _ => .invalidArgument
  | repeatedRelation _ _ => .invalidArgument
  | nestedAggregation _ => .nestedAggregation
  | manyArguments _ _ => .aggregationUnmatched
  | malformedCall _ => .invalidArgument
  | mixedAggregation _ _ => .aggregationUnmatched
  | namelessAttribute _ => .invalidArgument
  | wildcardArgument _ => .invalidArgument
  | ambiguousField _ _ => .fieldMissing
  | fieldOfAllTables _ => .fieldMissing
  | relationNotListed _ _ => .fieldMissing
  | noSuchField _ _ _ => .fieldMissing
  | aggregateInCondition _ => .invalidArgument
  | wildcardInCondition _ => .invalidArgument
  | unqualifiedInCondition _ => .fieldMissing
  | patternOperand _ _ => .typeMismatch
  | incomparable _ _ _ _ => .typeMismatch
  | notASelect => .invalidArgument
  | refused _ => .catalog
  | unknownOrder _ => .config
  | unreadableSettings _ => .config
  | unreadableCatalog _ => .catalog
  | missingFile => .io

/-- The hint that ends a message if there is a name to suggest. -/
def hint : Option String → String
  | some name => " (did you mean '" ++ name ++ "'?)"
  | none => ""

/-- What a message says after the words for its kind. -/
def detail : Error → String
  | parse cause => cause.message
  | badDate text => "Invalid date literal: '" ++ text ++ "'"
  | literalMismatch value target =>
    "Cannot compare " ++ value.type.text ++ " value " ++ value.text ++ " with " ++ target.text ++
      " field"
  | blankTableName => "Table name cannot be empty"
  | noColumns table => "Table '" ++ table ++ "' must have at least one column"
  | blankColumnName table => "Column name cannot be empty in table '" ++ table ++ "'"
  | repeatedColumn column table =>
    "Column '" ++ column ++ "' already exists in table '" ++ table ++ "'"
  | tableExists table catalog =>
    "Table '" ++ table ++ "' already exists in catalog '" ++ catalog ++ "'"
  | tableMissing table catalog =>
    "Table '" ++ table ++ "' does not exist in catalog '" ++ catalog ++ "'"
  | noCatalog => "No catalog to bind against"
  | blankRelation index => s!"Relation name at index {index} is empty"
  | repeatedRelation name index =>
    "Table '" ++ name ++ s!"' appears more than once in FROM (index {index})"
  | nestedAggregation a => a.text
  | manyArguments f count => f.text ++ s!" takes one attribute, got {count}"
  | malformedCall reason => "Malformed aggregation: " ++ reason
  | mixedAggregation a isAggregate =>
    "'" ++ a.text ++ "' cannot be combined with " ++
      (if isAggregate then "plain" else "aggregate") ++ " attributes in one projection"
  | namelessAttribute index => s!"Attribute at index {index} has no name"
  | wildcardArgument f => f.text ++ " cannot be applied to '*'"
  | ambiguousField tables name => s!"cannot tell which of {tables} tables '{name}' belongs to"
  | fieldOfAllTables name => "'*." ++ name ++ "' is not a valid attribute"
  | relationNotListed name suggestion =>
    "table '" ++ name ++ "' is not in the FROM list" ++ hint suggestion
  | noSuchField name table suggestion =>
    "no such field '" ++ name ++ "' in table '" ++ table ++ "'" ++ hint suggestion
  | aggregateInCondition a => "Aggregate '" ++ a.text ++ "' is not allowed in WHERE"
  | wildcardInCondition a => "Wildcard '" ++ a.text ++ "' cannot be compared"
  | unqualifiedInCondition name =>
    "cannot resolve '" ++ name ++ "' without a single table in FROM"
  | patternOperand comparison type =>
    comparison.text ++ " requires string operands, got " ++ type.text
  | incomparable left leftType right rightType =>
    "Cannot compare " ++ left ++ " (" ++ leftType.text ++ ") with " ++ right ++ " (" ++
      rightType.text ++ ")"
  | notASelect => "Only SELECT statements can be bound"
  | refused reason => reason
  | unknownOrder text =>
    "Unknown projection order '" ++ text ++ "'. Use: visitation or source"
  | unreadableSettings none => "not a settings document"
  | unreadableSettings (some source) => source ++ ": not a settings document"
  | unreadableCatalog source => source ++ ": not a catalog document"
  | missingFile => "No such file or directory (os error 2)"

/-- The words that a message of a kind begins with. -/
def lead : ErrorKind → String
  | .invalidArgument => "Invalid argument: "
  | .tableNotFound => ""
  | .fieldMissing => "Field missing: "
  | .nestedAggregation => "Nested aggregation functions are not allowed: "
  | .aggregationUnmatched => "Aggregation unmatched: "
  | .typeMismatch => "Type mismatch: "
  | .parse => "Parse error: "
  | .catalog => "Catalog error: "
  | .config => "Configuration error: "
  | .io => "IO error: "

def message (e : Error) : String := lead e.kind ++ e.detail

end Error

end QueryBind
