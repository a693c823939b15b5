import QueryBind.Calendar.Written
import QueryBind.Number.Shortest
import QueryBind.Value.ColumnType

/-!
# Literals

The values that a condition compares with. A numeral becomes the narrowest literal that holds
it: 32 bits, else 64 bits, else a double. A date is the day number of its calendar date. The text
of a literal is what conditions, filters and summaries show; a string stands between single
quotes as it is.
-/

namespace QueryBind

open Number Calendar

inductive Literal where
  | null
  | boolean (b : Bool)
  | integer (n : Int32)
  | bigint (n : Int64)
  | double (x : Double)
  | varchar (s : String)
  | date (day : Int32)
  deriving BEq

namespace Literal

def isNull : Literal → Bool
  | null => true
  | _ => false

def type : Literal → ColumnType
  | null => .null
  | boolean _ => .boolean
  | integer _ => .integer
  | bigint _ => .bigint
  | double _ => .double
  | varchar _ => .varchar
  | date _ => .date

/-- The narrowest literal of a numeral, if it is one. -/
def ofNumeral? (text : String) : Option Literal :=
  match int32? text with
  | some n => some (integer n)
  | none =>
    match int64? text with
    | some n => some (bigint n)
    | none => (double? text).map double

/-- The date that a text writes. -/
def ofDateText? (text : String) : Option Literal :=
  (Date.ofText? text).map fun d => date (Int32.ofInt d.dayNumber)

/-- A date by its calendar writing, or by its day number if the calendar does not reach it. -/
def dateText (day : Int32) : String :=
  match Date.ofDayNumber? day.toInt with
  | some d => "DATE '" ++ d.text ++ "'"
  | none => "DATE(" ++ toString day.toInt ++ ")"

def text : Literal → String
  | null => "NULL"
  | boolean b => if b then "true" else "false"
  | integer n => toString n.toInt
  | bigint n => toString n.toInt
  | double x => x.text
  | varchar s => "'" ++ s ++ "'"
  | date day => dateText day

end Literal

end QueryBind
