import QueryBind.Number.Double

/-!
# Numerals

Numbers as they are read from text. A whole number is an optional sign and at least one decimal
digit; it is read exactly and then asked for its width (`int32?`, `int64?`, `length?`). A double
may also have a fraction and a power of ten, or be one of the words `inf`, `infinity` and `nan`
in any case; it is the double nearest to the decimal number written, so a number beyond the
largest double is infinite and one too small is zero. No blank and no underscore is allowed.
-/

namespace QueryBind.Number

/-! ## Whole numbers -/

/-- The number that a list of decimal digits denotes. -/
def digitsValue (ds : List Char) : Nat :=
  ds.foldl (fun n c => 10 * n + (c.toNat - '0'.toNat)) 0

/-- A sign, if there is one, and what follows it; true stands for minus. -/
def splitSign : List Char → Bool × List Char
  | '-' :: cs => (true, cs)
  | '+' :: cs => (false, cs)
  | cs => (false, cs)

/-- A number without sign. -/
def natural? (cs : List Char) : Option Nat :=
  if cs ≠ [] ∧ cs.all Char.isDigit then some (digitsValue cs) else none

/-- A number with an optional sign. -/
def integer? (cs : List Char) : Option Int :=
  let (negative, ds) := splitSign cs
  (natural? ds).map fun n => if negative then -(n : Int) else n

/-- A whole number of 32 bits. -/
def int32? (text : String) : Option Int32 :=
  (integer? text.toList).bind fun n =>
    if Int32.minValue.toInt ≤ n ∧ n ≤ Int32.maxValue.toInt then some (Int32.ofInt n) else none

/-- A whole number of 64 bits. -/
def int64? (text : String) : Option Int64 :=
  (integer? text.toList).bind fun n =>
    if Int64.minValue.toInt ≤ n ∧ n ≤ Int64.maxValue.toInt then some (Int64.ofInt n) else none

/-- A length: a number of 64 bits that is written without a minus. -/
def length? (text : String) : Option Nat :=
  match splitSign text.toList with
  | (true, _) => none
  | (false, ds) => (natural? ds).bind fun n => if n < UInt64.size then some n else none

/-! ## Doubles -/

/-- Digits, a fraction and a power of ten, as a coefficient and an exponent to base ten. -/
def decimal? (cs : List Char) : Option (Nat × Int) :=
  let whole := cs.takeWhile Char.isDigit
  let afterWhole := cs.dropWhile Char.isDigit
  let (fraction, power) :=
    match afterWhole with
    | '.' :: rest => (rest.takeWhile Char.isDigit, rest.dropWhile Char.isDigit)
    | rest => ([], rest)
  if whole.isEmpty && fraction.isEmpty then none
  else
    let coefficient := digitsValue (whole ++ fraction)
    match power with
    | [] => some (coefficient, -fraction.length)
    | e :: rest =>
      if e = 'e' ∨ e = 'E' then
        (integer? rest).map fun n => (coefficient, n - fraction.length)
      else none

/-- A double with an optional sign: a decimal number or one of the words for what is not finite. -/
def double? (text : String) : Option Double :=
  let (negative, cs) := splitSign text.toList
  let word := String.ofList (cs.map Char.toLower)
  if word = "inf" ∨ word = "infinity" then some (.infinite negative)
  else if word = "nan" then some .nan
  else
    (decimal? cs).map fun (coefficient, exponent) => .ofDecimal negative coefficient exponent

end QueryBind.Number
