/-!
# Doubles

The numbers of the 64-bit binary format. Every finite one is a whole number of *units*, a unit
being `2 ^ -1074`, the least number above zero; so a finite double is kept as a sign and its
number of units. Not every number of units occurs: a double has 53 binary digits, and all units
below the last digit are missing. Rounding goes to the nearest number that occurs, and of two
equally near to the one with an even last digit.

Nothing is computed with doubles but what reading, writing and comparing them takes.
-/

namespace QueryBind.Number

/-- A number of the format: zeros have a sign, and `nan` stands for no number. -/
inductive Double where
  | nan
  | infinite (negative : Bool)
  | finite (negative : Bool) (units : Nat)
  deriving DecidableEq, Repr

namespace Double

/-- Equality of numbers: both zeros are equal, and `nan` equals nothing. -/
instance : BEq Double where
  beq
    | infinite s, infinite t => s == t
    | finite s m, finite t n => m == n && (m == 0 || s == t)
    | _, _ => false

/-! ## Rounding -/

/-- Number of units in 1. -/
def unitsOfOne : Nat := Nat.pow 2 1074

/-- Number of units in `2 ^ 1024`, where the finite doubles end. -/
def unitsOfLimit : Nat := Nat.pow 2 2098

/-- The distance of neighbouring doubles at a number of units, which is the weight of the last
of 53 binary digits. -/
def gap (units : Nat) : Nat := Nat.pow 2 (Nat.log2 units + 1 - 53)

/-- `n / d` as a whole number: the nearest one, the even one of two. -/
def roundedDiv (n d : Nat) : Nat :=
  let below := n / d
  let rest := n % d
  if 2 * rest < d ∨ (2 * rest = d ∧ below % 2 = 0) then below else below + 1

/-- The double nearest to the fraction `n / d`. A fraction that rounds to `2 ^ 1024` or more is
infinite. -/
def nearest (negative : Bool) (n d : Nat) : Double :=
  let step := gap (n * unitsOfOne / d)
  let units := roundedDiv (n * unitsOfOne) (d * step) * step
  if units < unitsOfLimit then finite negative units else infinite negative

/-- The double nearest to a whole number. -/
def ofInt (n : Int) : Double := nearest (n < 0) n.natAbs 1

/-- Number of decimal digits of a positive number. -/
def digitCount (n : Nat) : Nat := (Nat.toDigits 10 n).length

/-- The double nearest to `coefficient · 10 ^ exponent`. From `10 ^ 310` on that is infinite, and
below `10 ^ -330` it is zero, so the powers of ten that are computed stay small. -/
def ofDecimal (negative : Bool) (coefficient : Nat) (exponent : Int) : Double :=
  let top := digitCount coefficient + exponent
  if coefficient = 0 ∨ top < -330 then finite negative 0
  else if 310 < top then infinite negative
  else nearest negative (coefficient * Nat.pow 10 exponent.toNat) (Nat.pow 10 (-exponent).toNat)

end Double

end QueryBind.Number
