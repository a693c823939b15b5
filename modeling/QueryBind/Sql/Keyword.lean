/-!
# Keywords

The words with a meaning of their own in a statement. The *reserved* ones shape a statement and
never name a table or a column; the others, aggregate functions and types, may. A word is looked
up in upper case, so letter case is free.
-/

namespace QueryBind.Sql

inductive Keyword where
  | SELECT | FROM | WHERE | AND | NOT | NULL | LIKE | TRUE | FALSE | CREATE | DROP | TABLE
  | COUNT | SUM | AVG | MIN | MAX
  | INT | INTEGER | BIGINT | FLOAT | REAL | DOUBLE | CHAR | VARCHAR | TEXT | DATE | BOOLEAN
  deriving DecidableEq, Repr

namespace Keyword

/-- The upper-case form. -/
def spelling : Keyword → String
  | SELECT => "SELECT" | FROM => "FROM" | WHERE => "WHERE" | AND => "AND" | NOT => "NOT"
  | NULL => "NULL" | LIKE => "LIKE" | TRUE => "TRUE" | FALSE => "FALSE" | CREATE => "CREATE"
  | DROP => "DROP" | TABLE => "TABLE" | COUNT => "COUNT" | SUM => "SUM" | AVG => "AVG"
  | MIN => "MIN" | MAX => "MAX" | INT => "INT" | INTEGER => "INTEGER" | BIGINT => "BIGINT"
  | FLOAT => "FLOAT" | REAL => "REAL" | DOUBLE => "DOUBLE" | CHAR => "CHAR"
  | VARCHAR => "VARCHAR" | TEXT => "TEXT" | DATE => "DATE" | BOOLEAN => "BOOLEAN"

/-- All keywords, the reserved ones first. -/
def all : List Keyword :=
  [SELECT, FROM, WHERE, AND, NOT, NULL, LIKE, TRUE, FALSE, CREATE, DROP, TABLE,
   COUNT, SUM, AVG, MIN, MAX,
   INT, INTEGER, BIGINT, FLOAT, REAL, DOUBLE, CHAR, VARCHAR, TEXT, DATE, BOOLEAN]

/-- Keywords that never stand for a name. -/
def isReserved : Keyword → Bool
  | SELECT | FROM | WHERE | AND | NOT | NULL | LIKE | TRUE | FALSE | CREATE | DROP | TABLE => true
  | _ => false

/-- The keyword that a word is, in any mix of letter case. -/
def ofWord? (word : List Char) : Option Keyword :=
  all.find? fun k => k.spelling.toList == word.map Char.toUpper

theorem mem_all (k : Keyword) : k ∈ all := by
  cases k <;> decide

end Keyword

end QueryBind.Sql
