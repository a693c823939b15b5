import Mathlib.Algebra.Order.Field.Rat
import Mathlib.Tactic.Positivity
import Mathlib.Tactic.Ring
import QueryBind.Number.Double

/-!
# Whole numbers as doubles

The double nearest to a whole number of 64 bits is finite, and no whole number that
a double can hold is nearer. It is the number itself exactly if the number has no
more than 53 binary digits before the zeros at its end. Units are the measure
throughout: doubles of one size are the multiples of their gap, and the gap of a
whole number is a power of two.
-/

namespace QueryBind.Number

namespace Double

/-! ## Rounded division -/

theorem roundedDiv_of_dvd {n d : Nat} (hd : 0 < d) (h : d ∣ n) : roundedDiv n d * d = n := by
  obtain ⟨q, rfl⟩ := h
  have hround : roundedDiv (d * q) d = q := by
    simp [roundedDiv, Nat.mul_div_cancel_left q hd, hd]
  rw [hround, mul_comm]

/-- A number is rounded to the multiple of the divisor below it or to the next one,
whichever is nearer. -/
theorem roundedDiv_cases (n d : Nat) :
    (roundedDiv n d = n / d ∧ 2 * (n % d) ≤ d) ∨
      (roundedDiv n d = n / d + 1 ∧ d ≤ 2 * (n % d)) := by
  unfold roundedDiv
  dsimp only
  split
  · next h => exact .inl ⟨rfl, by omega⟩
  · next h => exact .inr ⟨rfl, by omega⟩

/-- No multiple of the divisor is nearer than the one that a number is rounded to. -/
theorem roundedDiv_nearest {d : Nat} (n q : Nat) (hd : 0 < d) :
    ((roundedDiv n d * d : Nat) - n : Int).natAbs ≤ ((q * d : Nat) - n : Int).natAbs := by
  have hrest : n % d < d := Nat.mod_lt n hd
  have hn : n / d * d + n % d = n := Nat.div_add_mod' n d
  have hside : q * d ≤ n / d * d ∨ n / d * d + d ≤ q * d := by
    rcases Nat.lt_or_ge (n / d) q with h | h
    · right
      calc n / d * d + d = (n / d + 1) * d := (Nat.succ_mul _ _).symm
        _ ≤ q * d := Nat.mul_le_mul_right d h
    · exact .inl (Nat.mul_le_mul_right d h)
  rcases roundedDiv_cases n d with ⟨hround, hhalf⟩ | ⟨hround, hhalf⟩
  · rw [hround]
    omega
  · rw [hround, Nat.succ_mul]
    omega

/-! ## Gaps of whole numbers -/

/-- The units of 1 are a power of two, and a high one. -/
theorem exists_unitsOfOne : ∃ k, unitsOfOne = 2 ^ (k + 52) := ⟨1022, by decide +kernel⟩

theorem unitsOfOne_pos : 0 < unitsOfOne := by
  obtain ⟨k, hk⟩ := exists_unitsOfOne
  rw [hk]
  exact Nat.two_pow_pos _

theorem gap_pos (units : Nat) : 0 < gap units := Nat.two_pow_pos _

/-- A number of units lies between the same powers of two as the whole number, but
for those of 1. -/
theorem log2_units {a k : Nat} (ha : a ≠ 0) (hk : unitsOfOne = 2 ^ k) :
    (a * unitsOfOne).log2 = a.log2 + k := by
  have hunits : a * unitsOfOne ≠ 0 := Nat.mul_ne_zero ha unitsOfOne_pos.ne'
  refine (Nat.log2_eq_iff hunits).mpr ⟨?_, ?_⟩
  · rw [hk, pow_add]
    exact Nat.mul_le_mul_right _ (Nat.log2_self_le ha)
  · rw [hk, show a.log2 + k + 1 = a.log2 + 1 + k by omega, pow_add]
    exact Nat.mul_lt_mul_of_pos_right Nat.lt_log2_self (Nat.two_pow_pos k)

theorem gap_units {a k : Nat} (ha : a ≠ 0) (hk : unitsOfOne = 2 ^ (k + 52)) :
    gap (a * unitsOfOne) = 2 ^ (a.log2 + k) := by
  have hpower : (a * unitsOfOne).log2 + 1 - 53 = a.log2 + k := by
    rw [log2_units ha hk]
    omega
  rw [gap, hpower]
  rfl

/-- The whole number has at most 53 binary digits before the zeros at its end. -/
def FitsDouble (n : Int) : Prop := ∃ m e : Nat, m < 2 ^ 53 ∧ n.natAbs = m * 2 ^ e

theorem fitsDouble_natAbs {n : Int} : FitsDouble n.natAbs ↔ FitsDouble n := by
  rw [FitsDouble, Int.natAbs_natCast, FitsDouble]

/-- The number of units of the double nearest to a whole number. -/
def wholeUnits (a : Nat) : Nat :=
  roundedDiv (a * unitsOfOne) (gap (a * unitsOfOne)) * gap (a * unitsOfOne)

/-- A whole number that a double holds is a multiple of the gap at another one, or
it is smaller than the power of two at or below that one. -/
theorem gap_dvd_or_lt {a b : Nat} (ha : a ≠ 0) (hb : FitsDouble b) :
    gap (a * unitsOfOne) ∣ b * unitsOfOne ∨ b < 2 ^ a.log2 := by
  obtain ⟨m, e, hm, hb⟩ := hb
  obtain ⟨k, hk⟩ := exists_unitsOfOne
  rw [Int.natAbs_natCast] at hb
  rw [gap_units ha hk, hb]
  rcases Nat.lt_or_ge (e + 52) a.log2 with h | h
  · right
    calc m * 2 ^ e < 2 ^ 53 * 2 ^ e := Nat.mul_lt_mul_of_pos_right hm (Nat.two_pow_pos e)
      _ = 2 ^ (53 + e) := (pow_add 2 53 e).symm
      _ ≤ 2 ^ a.log2 := Nat.pow_le_pow_right two_pos (by omega)
  · left
    rw [hk, mul_assoc, ← pow_add]
    exact Dvd.dvd.mul_left (pow_dvd_pow 2 (by omega)) m

theorem wholeUnits_zero : wholeUnits 0 = 0 := by
  simp [wholeUnits, roundedDiv, gap]

/-- A whole number is rounded to itself exactly if a double holds it. -/
theorem wholeUnits_eq_iff {a : Nat} : wholeUnits a = a * unitsOfOne ↔ FitsDouble a := by
  constructor
  · intro h
    rcases Nat.lt_or_ge a (2 ^ 53) with hsmall | hlarge
    · exact ⟨a, 0, hsmall, by simp⟩
    have ha : a ≠ 0 := by
      rintro rfl
      exact absurd hlarge (by decide)
    obtain ⟨k, hk⟩ := exists_unitsOfOne
    obtain ⟨e, he⟩ : ∃ e, a.log2 = e + 52 :=
      ⟨a.log2 - 52, by have := (Nat.le_log2 ha).mpr hlarge; omega⟩
    -- The units of 1 cancel, and what is left are the zeros and 53 digits.
    have hdvd : gap (a * unitsOfOne) ∣ a * unitsOfOne := ⟨_, h.symm.trans (mul_comm _ _)⟩
    rw [gap_units ha hk, he, hk, show e + 52 + k = e + (k + 52) by omega, pow_add] at hdvd
    obtain ⟨m, hm⟩ := Nat.dvd_of_mul_dvd_mul_right (Nat.two_pow_pos (k + 52)) hdvd
    refine ⟨m, e, ?_, by rw [Int.natAbs_natCast, hm, mul_comm]⟩
    have hlt : a < 2 ^ (a.log2 + 1) := Nat.lt_log2_self
    rw [he, hm, show e + 52 + 1 = e + 53 by omega, pow_add] at hlt
    exact Nat.lt_of_mul_lt_mul_left hlt
  · intro h
    rcases Nat.eq_zero_or_pos a with rfl | hpos
    · rw [wholeUnits_zero, Nat.zero_mul]
    rcases gap_dvd_or_lt hpos.ne' h with hdvd | hlt
    · exact roundedDiv_of_dvd (gap_pos _) hdvd
    · exact absurd (Nat.log2_self_le hpos.ne') (Nat.not_le.mpr hlt)

/-- No whole number that a double holds is nearer. -/
theorem wholeUnits_nearest {a b : Nat} (hb : FitsDouble b) :
    ((wholeUnits a : Nat) - (a * unitsOfOne : Nat) : Int).natAbs ≤
      ((b * unitsOfOne : Nat) - (a * unitsOfOne : Nat) : Int).natAbs := by
  rcases Nat.eq_zero_or_pos a with rfl | hpos
  · rw [wholeUnits_zero, Nat.zero_mul]
    omega
  have hmultiple : ∀ c, gap (a * unitsOfOne) ∣ c * unitsOfOne →
      ((wholeUnits a : Nat) - (a * unitsOfOne : Nat) : Int).natAbs ≤
        ((c * unitsOfOne : Nat) - (a * unitsOfOne : Nat) : Int).natAbs := by
    rintro c ⟨q, hq⟩
    rw [hq, mul_comm _ q]
    exact roundedDiv_nearest (a * unitsOfOne) q (gap_pos _)
  rcases gap_dvd_or_lt hpos.ne' hb with hdvd | hlt
  · exact hmultiple b hdvd
  -- The power of two below the number is a multiple of the gap, and nearer.
  have hpower : FitsDouble (2 ^ a.log2 : Nat) := ⟨1, a.log2, by decide, by simp⟩
  have hle : 2 ^ a.log2 ≤ a := Nat.log2_self_le hpos.ne'
  have hnear := hmultiple (2 ^ a.log2)
    ((gap_dvd_or_lt hpos.ne' hpower).resolve_right (lt_irrefl _))
  have hlower := Nat.mul_le_mul_right unitsOfOne hlt.le
  have hupper := Nat.mul_le_mul_right unitsOfOne hle
  omega

/-- Rounding does not lead past a number that a double holds. -/
theorem wholeUnits_le {a b : Nat} (hle : a ≤ b) (hb : FitsDouble b) :
    wholeUnits a ≤ b * unitsOfOne := by
  have hnear := wholeUnits_nearest (a := a) hb
  have hunits := Nat.mul_le_mul_right unitsOfOne hle
  omega

/-! ## The numbers that doubles are -/

/-- The factor for the sign of a double. -/
def signFactor (negative : Bool) : ℚ := if negative then -1 else 1

theorem abs_signFactor (negative : Bool) : |signFactor negative| = 1 := by
  cases negative <;> simp [signFactor]

/-- The number that a double is, if it is finite. -/
def value? : Double → Option ℚ
  | finite negative units => some (signFactor negative * (units / unitsOfOne))
  | _ => none

theorem value?_zero (negative : Bool) : (finite negative 0).value? = some 0 := by
  rw [value?, Nat.cast_zero, zero_div, mul_zero]

theorem value?_eq_of_beq {x y : Double} (h : (x == y) = true) : x.value? = y.value? := by
  cases x with
  | nan => simp [BEq.beq] at h
  | infinite s =>
      cases y with
      | infinite t => rfl
      | nan => simp [BEq.beq] at h
      | finite t n => simp [BEq.beq] at h
  | finite s m =>
      cases y with
      | finite t n =>
          obtain ⟨rfl, rfl | rfl⟩ : m = n ∧ (m = 0 ∨ s = t) := by simpa [BEq.beq] using h
          · rw [value?_zero, value?_zero]
          · rfl
      | nan => simp [BEq.beq] at h
      | infinite t => simp [BEq.beq] at h

/-- A whole number of 64 bits is rounded to a finite double. -/
theorem ofInt_eq {n : Int} (hn : n.natAbs ≤ 2 ^ 63) :
    ofInt n = finite (n < 0) (wholeUnits n.natAbs) := by
  have hlimit : 2 ^ 63 * unitsOfOne < unitsOfLimit := by decide +kernel
  have hle : wholeUnits n.natAbs ≤ 2 ^ 63 * unitsOfOne :=
    wholeUnits_le hn ⟨1, 63, by decide, by decide⟩
  rw [ofInt, nearest]
  simp only [Nat.div_one, Nat.one_mul]
  exact if_pos (hle.trans_lt hlimit)

theorem signFactor_mul_natAbs (n : Int) : signFactor (n < 0) * n.natAbs = n := by
  rw [Nat.cast_natAbs, Int.cast_abs, signFactor]
  by_cases h : n < 0
  · have hcast : (n : ℚ) < 0 := by exact_mod_cast h
    simp [h, abs_of_neg hcast]
  · have hcast : 0 ≤ (n : ℚ) := by exact_mod_cast not_lt.mp h
    simp [h, abs_of_nonneg hcast]

theorem value?_ofInt {n : Int} (hn : n.natAbs ≤ 2 ^ 63) :
    (ofInt n).value? =
      some (signFactor (n < 0) * (wholeUnits n.natAbs / unitsOfOne)) := by
  rw [ofInt_eq hn]
  rfl

theorem abs_wholeUnits_sub_le {a b : Nat} (hb : FitsDouble b) :
    |(wholeUnits a / unitsOfOne : ℚ) - a| ≤ |(b : ℚ) - a| := by
  have hunits : (0 : ℚ) < unitsOfOne := by exact_mod_cast unitsOfOne_pos
  have hnear : |(wholeUnits a : ℚ) - a * unitsOfOne| ≤ |(b : ℚ) * unitsOfOne - a * unitsOfOne| := by
    have hnear := wholeUnits_nearest (a := a) hb
    rw [← Int.ofNat_le, Int.natCast_natAbs, Int.natCast_natAbs] at hnear
    exact_mod_cast hnear
  calc |(wholeUnits a / unitsOfOne : ℚ) - a|
      = |(wholeUnits a : ℚ) - a * unitsOfOne| / unitsOfOne := by
        rw [← abs_of_pos hunits, ← abs_div, abs_of_pos hunits, sub_div,
          mul_div_cancel_right₀ _ hunits.ne']
    _ ≤ |(b : ℚ) * unitsOfOne - a * unitsOfOne| / unitsOfOne := by gcongr
    _ = |(b : ℚ) - a| := by
        rw [← sub_mul, abs_mul, abs_of_pos hunits, mul_div_cancel_right₀ _ hunits.ne']

/-- The double of a whole number is a number, and no whole number that a double holds
is nearer. -/
theorem exists_value?_ofInt {n : Int} (hn : n.natAbs ≤ 2 ^ 63) :
    ∃ q, (ofInt n).value? = some q ∧ ∀ m, FitsDouble m → |q - n| ≤ |(m : ℚ) - n| := by
  refine ⟨_, value?_ofInt hn, fun m hm => ?_⟩
  have hnear := abs_wholeUnits_sub_le (a := n.natAbs) (fitsDouble_natAbs.mpr hm)
  calc |signFactor (n < 0) * (wholeUnits n.natAbs / unitsOfOne) - n|
      = |signFactor (n < 0) * (wholeUnits n.natAbs / unitsOfOne - n.natAbs)| := by
        rw [mul_sub, signFactor_mul_natAbs]
    _ = |(wholeUnits n.natAbs / unitsOfOne : ℚ) - n.natAbs| := by
        rw [abs_mul, abs_signFactor, one_mul]
    _ ≤ |(m.natAbs : ℚ) - n.natAbs| := hnear
    _ ≤ |(m : ℚ) - n| := by
        rw [Nat.cast_natAbs, Nat.cast_natAbs, Int.cast_abs, Int.cast_abs]
        exact abs_abs_sub_abs_le_abs_sub _ _

/-- It is the whole number itself exactly if a double holds it. -/
theorem value?_ofInt_eq_iff {n : Int} (hn : n.natAbs ≤ 2 ^ 63) :
    (ofInt n).value? = some (n : ℚ) ↔ FitsDouble n := by
  have hunits : (unitsOfOne : ℚ) ≠ 0 := by exact_mod_cast unitsOfOne_pos.ne'
  have hsign : signFactor (n < 0) ≠ 0 := by
    rw [← abs_ne_zero, abs_signFactor]
    exact one_ne_zero
  rw [value?_ofInt hn, Option.some_inj, ← fitsDouble_natAbs, ← wholeUnits_eq_iff,
    ← signFactor_mul_natAbs n, mul_right_inj' hsign, div_eq_iff hunits]
  exact_mod_cast Iff.rfl

end Double

end QueryBind.Number
