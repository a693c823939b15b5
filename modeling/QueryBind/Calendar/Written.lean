import QueryBind.Calendar.Date
import QueryBind.Number.Numeral
import QueryBind.Text.Blank

/-!
# Written dates

Dates written as year, month and day with a minus between them. In reading, blank characters may
stand before each of the three numbers. The year is one to four digits, or a sign and any number
of digits; month and day have one or two digits, and nothing may follow. In writing, the year
has at least four digits, with a minus for a negative one and a plus for one above 9999, and
month and day have two.
-/

namespace QueryBind.Calendar

open QueryBind.Text QueryBind.Number

/-! ## Reading -/

/-- A number of at least one and at most `most` digits, and what follows it. -/
def digits? (most : Nat) (cs : List Char) : Option (Nat × List Char) :=
  let ds := (cs.take most).takeWhile Char.isDigit
  if ds.isEmpty then none else some (digitsValue ds, cs.drop ds.length)

/-- A year and what follows it. -/
def year? (cs : List Char) : Option (Int × List Char) :=
  match cs with
  | '-' :: ds => (digits? ds.length ds).map fun (n, rest) => (-(n : Int), rest)
  | '+' :: ds => (digits? ds.length ds).map fun (n, rest) => ((n : Int), rest)
  | ds => (digits? 4 ds).map fun (n, rest) => ((n : Int), rest)

/-- The separator, and then a number of one or two digits. -/
def nextPart? (cs : List Char) : Option (Nat × List Char) :=
  match cs with
  | '-' :: rest => digits? 2 (skipBlank rest)
  | _ => none

/-- The date that the characters are one writing of. -/
def Date.ofChars? (cs : List Char) : Option Date := do
  let (year, afterYear) ← year? (skipBlank cs)
  let (month, afterMonth) ← nextPart? afterYear
  let (day, rest) ← nextPart? afterMonth
  let date : Date := ⟨year, month, day⟩
  if rest = [] ∧ date.IsValid then some date else none

/-- The date that a text holds between blank characters. -/
def Date.ofText? (text : String) : Option Date := Date.ofChars? (trimChars text.toList)

/-! ## Writing -/

/-- A number with zeros in front of it up to a width. -/
def padded (width n : Nat) : List Char :=
  let ds := Nat.toDigits 10 n
  List.replicate (width - ds.length) '0' ++ ds

def yearChars (year : Int) : List Char :=
  if year < 0 then '-' :: padded 4 year.natAbs
  else if 9999 < year then '+' :: padded 4 year.natAbs
  else padded 4 year.natAbs

/-- The writing of a date. -/
def Date.chars (d : Date) : List Char :=
  yearChars d.year ++ '-' :: padded 2 d.month ++ '-' :: padded 2 d.day

def Date.text (d : Date) : String := String.ofList d.chars

end QueryBind.Calendar
