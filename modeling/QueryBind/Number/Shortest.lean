import QueryBind.Number.Double

/-!
# Shortest decimal text of a double

The fewest decimal digits that read back to the same double and, among those, the nearest to it;
of two equally near the larger. The numbers that round to a positive finite double form an
interval around it, which has its ends iff the last binary digit of the double is even. On the
grid of the multiples of a power of ten only the two neighbours of the double can be nearest, so
the coarsest grid on which one of them lies in the interval gives the digits.

The text is positional whatever the size: no exponent, no point in a whole number.
-/

namespace QueryBind.Number

/-! ## The interval of a double -/

/-- A positive finite double with the interval that rounds to it, as fractions of one
denominator. -/
structure Interval where
  lower : Nat
  value : Nat
  upper : Nat
  denominator : Nat
  closed : Bool

/-- The interval of a positive number of units that occurs: up to the middle of the gap on either
side. The gap below a power of two is half as wide, if it is more than one unit. -/
def Interval.ofUnits (units : Nat) : Interval :=
  let gap := Double.gap units
  let below := if units = Nat.pow 2 52 * gap ∧ 1 < gap then gap else 2 * gap
  { lower := 4 * units - below
    value := 4 * units
    upper := 4 * units + 2 * gap
    denominator := 4 * Double.unitsOfOne
    closed := units / gap % 2 == 0 }

namespace Interval

/-- The interval in units of `10 ^ k`. -/
def inUnits (i : Interval) (k : Int) : Interval :=
  let up := Nat.pow 10 (-k).toNat
  { i with
    lower := i.lower * up, value := i.value * up, upper := i.upper * up
    denominator := i.denominator * Nat.pow 10 k.toNat }

/-- The whole number `a` lies in the interval. -/
def holds (i : Interval) (a : Nat) : Bool :=
  let x := a * i.denominator
  (i.lower < x && x < i.upper) || (i.closed && (x == i.lower || x == i.upper))

/-- The whole number nearest to the value among its two neighbours that lie in the interval;
the upper one if both are equally near. -/
def wholeInside? (i : Interval) : Option Nat :=
  let below := i.value / i.denominator
  let above := below + 1
  if i.holds below then
    if i.holds above && i.denominator ≤ 2 * (i.value % i.denominator) then some above
    else some below
  else if i.holds above then some above
  else none

/-- The exponent of the first decimal digit of the value. -/
def leading (i : Interval) : Int :=
  if i.denominator ≤ i.value then
    ((Nat.toDigits 10 (i.value / i.denominator)).length : Int) - 1
  else
    -((Nat.toDigits 10 ((i.denominator - 1) / i.value)).length : Int)

/-- The shortest decimal number in the interval as digits and a power of ten. Seventeen digits
are always enough; the search starts one grid above the leading digit. -/
def shortest (i : Interval) : Nat × Int :=
  let first := i.leading + 1
  ((List.range 19).findSome? fun n : Nat =>
    let k := first - (n : Int)
    (i.inUnits k).wholeInside?.map fun a => (a, k)).getD (0, 0)

end Interval

/-! ## Text -/

/-- Positional text of `digits · 10 ^ power`. -/
def positional (digits : Nat) (power : Int) : String :=
  let ds := Nat.toDigits 10 digits
  let places := (-power).toNat
  if 0 ≤ power then String.ofList (ds ++ List.replicate power.toNat '0')
  else if ds.length ≤ places then
    String.ofList ('0' :: '.' :: List.replicate (places - ds.length) '0' ++ ds)
  else
    String.ofList (ds.take (ds.length - places) ++ '.' :: ds.drop (ds.length - places))

/-- Text of a finite double without its sign. -/
def unitsText (units : Nat) : String :=
  if units = 0 then "0"
  else
    let (digits, power) := (Interval.ofUnits units).shortest
    positional digits power

def signText (negative : Bool) : String := if negative then "-" else ""

/-- Text of a double: sign and shortest digits, or `inf` and `NaN` by name. -/
def Double.text : Double → String
  | nan => "NaN"
  | infinite negative => signText negative ++ "inf"
  | finite negative units => signText negative ++ unitsText units

end QueryBind.Number
