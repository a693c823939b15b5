import QueryBind.Schema.Definition
import QueryBind.Text.Blank
import QueryBind.Value.Literal

/-!
# Statements

Statements as written, before any name in them has a meaning: a SELECT with its attributes,
relations and conditions, a CREATE TABLE with its definition, a DROP TABLE with its name. An
attribute records the *shape* of the aggregate call it stands in without judging it; which shapes
are acceptable is decided when the statement is bound.
-/

namespace QueryBind.Sql

open QueryBind.Text

/-! ## Aggregate shapes -/

inductive AggregateFunction where
  | count | sum | avg | min | max
  deriving DecidableEq, Repr

def AggregateFunction.text : AggregateFunction → String
  | count => "COUNT"
  | sum => "SUM"
  | avg => "AVG"
  | min => "MIN"
  | max => "MAX"

/-- How an attribute stands in aggregate calls: in none, as the one argument of a call, in a call
whose argument is a call, as the first of several arguments, or in a call that is unusable for
another reason. -/
inductive AggregateShape where
  | plain
  | call (f : AggregateFunction)
  | nested (outer inner : AggregateFunction)
  | multiple (f : AggregateFunction) (count : Nat)
  | malformed (reason : String)
  deriving DecidableEq, Repr

namespace AggregateShape

def isPlain (s : AggregateShape) : Bool := s == plain

/-- The outermost function, if the shape names one. -/
def function? : AggregateShape → Option AggregateFunction
  | call f => some f
  | nested outer _ => some outer
  | multiple f _ => some f
  | plain | malformed _ => none

end AggregateShape

/-! ## Attributes -/

/-- The name that stands for all columns or all tables. -/
def wildcard : String := "*"

def isWildcard (name : String) : Bool := name == wildcard

/-- A column name, with the name of a relation before it and an aggregate call around it if
written so. -/
structure Attribute where
  relation : Option String
  name : String
  shape : AggregateShape := .plain
  deriving DecidableEq, Repr

namespace Attribute

/-- The relation named before the column; a blank name counts as none. -/
def qualifier? (a : Attribute) : Option String := a.relation.filter (!isBlank ·)

/-- The column with its qualifier, without any call. -/
def target (a : Attribute) : String :=
  match a.qualifier? with
  | some relation => relation ++ "." ++ a.name
  | none => a.name

def text (a : Attribute) : String :=
  match a.shape with
  | .plain => a.target
  | .call f => f.text ++ "(" ++ a.target ++ ")"
  | .nested outer inner => outer.text ++ "(" ++ inner.text ++ "(" ++ a.target ++ "))"
  | .multiple f count => f.text ++ "(" ++ a.target ++ s!", ... {count} arguments)"
  | .malformed reason => a.target ++ " <" ++ reason ++ ">"

end Attribute

/-- An entry of a SELECT list as written: a column, or a call with any arguments. -/
inductive Item where
  | column (relation : Option String) (name : String)
  | call (f : AggregateFunction) (arguments : List Item)

namespace Item

/-- The function of an item that is a call. -/
def function? : Item → Option AggregateFunction
  | column _ _ => none
  | call f _ => some f

/-- The shape that a call gives to its first argument. A call among the arguments makes it
nested, whatever that call's own shape; otherwise the number of arguments decides. -/
def callShape (f : AggregateFunction) (arguments : List Item) : AggregateShape :=
  match arguments.findSome? function? with
  | some inner => .nested f inner
  | none => if arguments.length > 1 then .multiple f arguments.length else .call f

/-- The attribute of an item: its first column, in the shape that the outermost call gives it. -/
def toAttribute : Item → Attribute
  | column relation name => ⟨relation, name, .plain⟩
  | call f [] => ⟨none, "", .malformed (f.text ++ "() has no argument")⟩
  | call f (first :: others) =>
    { first.toAttribute with shape := callShape f (first :: others) }

end Item

/-! ## Conditions -/

inductive Comparison where
  | equal | notEqual | lessThan | lessOrEqual | greaterThan | greaterOrEqual | like | notLike
  deriving DecidableEq, Repr

namespace Comparison

/-- LIKE and NOT LIKE match a pattern; the others compare two values. -/
def isPatternMatch : Comparison → Bool
  | like | notLike => true
  | _ => false

def text : Comparison → String
  | equal => "="
  | notEqual => "<>"
  | lessThan => "<"
  | lessOrEqual => "<="
  | greaterThan => ">"
  | greaterOrEqual => ">="
  | like => "LIKE"
  | notLike => "NOT LIKE"

end Comparison

/-- One side of a condition. -/
inductive Operand where
  | column (a : Attribute)
  | literal (v : Literal)
  deriving BEq

def Operand.text : Operand → String
  | column a => a.text
  | literal v => v.text

structure Condition where
  left : Operand
  comparison : Comparison
  right : Operand
  deriving BEq

def Condition.text (c : Condition) : String :=
  c.left.text ++ " " ++ c.comparison.text ++ " " ++ c.right.text

/-! ## Statements -/

structure Select where
  relations : List String
  attributes : List Attribute
  conditions : List Condition
  deriving BEq

inductive Statement where
  | select (s : Select)
  | createTable (definition : TableDefinition)
  | dropTable (name : String)
  deriving BEq

end QueryBind.Sql
