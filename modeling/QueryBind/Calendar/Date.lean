/-!
# Calendar dates

Dates of the proleptic Gregorian calendar and their day numbers, counted from the first of
January 1970. Both directions count in years that begin in March, so that the leap day is the
last day of a year, and in eras of four hundred years, which all have the same 146097 days.
The years run from -262143 to 262142.
-/

namespace QueryBind.Calendar

/-- A year, a month from 1 and a day from 1. -/
structure Date where
  year : Int
  month : Nat
  day : Nat
  deriving DecidableEq, Repr

def isLeapYear (year : Int) : Bool :=
  year % 4 == 0 && (year % 100 != 0 || year % 400 == 0)

/-- Days of a month; none of a number that is no month. -/
def daysInMonth (year : Int) (month : Nat) : Nat :=
  match month with
  | 1 | 3 | 5 | 7 | 8 | 10 | 12 => 31
  | 4 | 6 | 9 | 11 => 30
  | 2 => if isLeapYear year then 29 else 28
  | _ => 0

def firstYear : Int := -262143

def lastYear : Int := 262142

/-- The date exists and its year is one of the calendar's years. -/
def Date.IsValid (d : Date) : Prop :=
  firstYear ≤ d.year ∧ d.year ≤ lastYear ∧ 1 ≤ d.day ∧ d.day ≤ daysInMonth d.year d.month

instance (d : Date) : Decidable d.IsValid :=
  inferInstanceAs (Decidable (_ ∧ _ ∧ _ ∧ _))

/-- Days from the first of March of the year 0 to the first of January 1970. -/
def epochShift : Int := 719468

/-- Days before the month `m` of a year that begins in March, March being 0. -/
def daysBeforeMonth (m : Int) : Int := (153 * m + 2) / 5

/-- Days from the first of January 1970 to a date. -/
def Date.dayNumber (d : Date) : Int :=
  let year := if d.month ≤ 2 then d.year - 1 else d.year
  let month : Int := if d.month ≤ 2 then d.month + 9 else d.month - 3
  let era := year / 400
  let yearOfEra := year % 400
  let dayOfEra :=
    365 * yearOfEra + yearOfEra / 4 - yearOfEra / 100 + daysBeforeMonth month + d.day - 1
  146097 * era + dayOfEra - epochShift

/-- The date of a day number, whatever its year. -/
def Date.ofDayNumber (n : Int) : Date :=
  let days := n + epochShift
  let era := days / 146097
  let dayOfEra := days % 146097
  let yearOfEra := (dayOfEra - dayOfEra / 1460 + dayOfEra / 36524 - dayOfEra / 146096) / 365
  let dayOfYear := dayOfEra - (365 * yearOfEra + yearOfEra / 4 - yearOfEra / 100)
  let month := (5 * dayOfYear + 2) / 153
  let year := yearOfEra + 400 * era
  { year := if month < 10 then year else year + 1
    month := (if month < 10 then month + 3 else month - 9).toNat
    day := (dayOfYear - daysBeforeMonth month + 1).toNat }

/-- The date of a day number, if its year is one of the calendar's years. -/
def Date.ofDayNumber? (n : Int) : Option Date :=
  let d := Date.ofDayNumber n
  if firstYear ≤ d.year ∧ d.year ≤ lastYear then some d else none

end QueryBind.Calendar
