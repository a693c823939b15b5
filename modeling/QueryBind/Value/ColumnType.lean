/-!
# Column types

The types a column can have, which also type the literals of a condition. Two types may be
compared when both are numbers, both are strings, both are the same, or one is the type of NULL.
-/

namespace QueryBind

/-- A type. `char` has a fixed number of characters; `null` is the type of the literal NULL. -/
inductive ColumnType where
  | null
  | boolean
  | integer
  | bigint
  | float
  | double
  | char (length : Nat)
  | varchar
  | date
  deriving DecidableEq, Repr

namespace ColumnType

def isNumeric : ColumnType → Bool
  | integer | bigint | float | double => true
  | _ => false

def isIntegral : ColumnType → Bool
  | integer | bigint => true
  | _ => false

def isString : ColumnType → Bool
  | varchar | char _ => true
  | _ => false

/-- Values of the two types may stand on the two sides of a comparison. -/
def isComparableWith (s t : ColumnType) : Bool :=
  s == null || t == null || (s.isNumeric && t.isNumeric) || (s.isString && t.isString) || s == t

/-- Width of a stored value in bytes, for the types where all values have the same. -/
def fixedSize? : ColumnType → Option Nat
  | boolean => some 1
  | integer | float | date => some 4
  | bigint | double => some 8
  | char length => some length
  | null | varchar => none

/-- The name of a type in statements and messages. -/
def text : ColumnType → String
  | null => "NULL"
  | boolean => "BOOLEAN"
  | integer => "INTEGER"
  | bigint => "BIGINT"
  | float => "FLOAT"
  | double => "DOUBLE"
  | char length => s!"CHAR({length})"
  | varchar => "VARCHAR"
  | date => "DATE"

end ColumnType

end QueryBind
