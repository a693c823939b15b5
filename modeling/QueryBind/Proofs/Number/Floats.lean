import Mathlib.Algebra.Order.Ring.Nat
import Mathlib.Data.Nat.Log

/-!
# Rounding and packing floats

A float is computed with a mantissa and an exponent. Rounding brings the mantissa to 53
binary digits, or to fewer at the least exponent, and leaves the size of the number as it
is or makes it one binary digit longer. Such a number comes back from its packed form.

The size of a number is the place of its first binary digit, `totalExponent`.

## Main results

- `roundWithAccuracy_cases`: what rounding gives.
- `unpack_pack_finite`: what unpacking gives.
-/

namespace QueryBind.Floats

open Float.Model Float.Model.UnpackedFloat

/-! ## Rounding -/

theorem targetExponent_eq (t : Int) :
    Format.binary64.targetExponent t = max (t - 53) (-1074) := rfl

theorem mantissa_shiftRight (em : ExtendedMantissa) (n : Nat) :
    (em >>> n).mantissa = em.mantissa / 2 ^ n := by
  change (n.repeat ExtendedMantissa.shiftRightOne em).mantissa = _
  induction n with
  | zero => simp [Nat.repeat]
  | succ n ih =>
      rw [Nat.repeat, ExtendedMantissa.shiftRightOne, ih, Nat.div_div_eq_div_mul, Nat.pow_succ]

theorem mantissa_ofMantissaAndAccuracy (m : Nat) (a : Accuracy) :
    (ExtendedMantissa.ofMantissaAndAccuracy m a).mantissa = m := by
  cases a with
  | exact => rfl
  | inexact o => cases o <;> rfl

/-- Rounding goes up by at most one. -/
theorem roundedMantissa_bounds (em : ExtendedMantissa) :
    em.mantissa ≤ em.roundedMantissa ∧ em.roundedMantissa ≤ em.mantissa + 1 := by
  obtain ⟨m, round, sticky⟩ := em
  cases round <;> cases sticky <;>
    simp [ExtendedMantissa.roundedMantissa, ExtendedMantissa.accuracy,
      Accuracy.roundToNearestEven]
  omega

/-- The mantissa has 53 binary digits, or fewer at the least exponent. -/
structure Canonical (m : Nat) (e : Int) : Prop where
  lt : m < 2 ^ 53
  le : -1074 ≤ e
  full : 2 ^ 52 ≤ m ∨ e = -1074

theorem log2_lt_of_lt {m k : Nat} (hk : 0 < k) (hm : m < 2 ^ k) : m.log2 < k := by
  rcases Nat.eq_zero_or_pos m with rfl | hpos
  · rwa [Nat.log2_zero]
  · exact (Nat.log2_lt hpos.ne').mpr hm

theorem log2_shiftLeft {m : Nat} (hm : m ≠ 0) (k : Nat) : (m <<< k).log2 = m.log2 + k := by
  have hlo := Nat.log2_self_le hm
  have hhi : m < 2 ^ (m.log2 + 1) := Nat.lt_log2_self
  have hpos := Nat.two_pow_pos k
  rw [Nat.shiftLeft_eq, Nat.log2_eq_iff (Nat.mul_ne_zero hm hpos.ne'), Nat.pow_add,
    show m.log2 + k + 1 = m.log2 + 1 + k by omega, Nat.pow_add _ (m.log2 + 1)]
  exact ⟨Nat.mul_le_mul_right _ hlo, Nat.mul_lt_mul_of_pos_right hhi hpos⟩

theorem div_pow_lt {m k n : Nat} (hk : m.log2 < n + k) : m / 2 ^ k < 2 ^ n := by
  rw [Nat.div_lt_iff_lt_mul (Nat.two_pow_pos k), ← Nat.pow_add]
  calc m < 2 ^ (m.log2 + 1) := Nat.lt_log2_self
    _ ≤ 2 ^ (n + k) := Nat.pow_le_pow_right Nat.two_pos hk

theorem le_div_pow {m k n : Nat} (hm : m ≠ 0) (hk : n + k ≤ m.log2) : 2 ^ n ≤ m / 2 ^ k := by
  rw [Nat.le_div_iff_mul_le (Nat.two_pow_pos k), ← Nat.pow_add]
  exact (Nat.le_log2 hm).mp hk

/-- A mantissa with its place, or zero. -/
def placed (s : Sign) (q : Nat) (x : Int) : UnpackedFloat :=
  if h : q = 0 then .zero s else .finite s q x (Nat.pos_of_ne_zero h)

/-- The second shift halves a mantissa that rounding made too long, and leaves any
other as it is. -/
theorem secondShift {r : Nat} {t : Int} (hr : r ≤ 2 ^ 53) (ht : -1074 ≤ t) :
    (r < 2 ^ 53 ∧ (Format.binary64.targetExponent (totalExponent r t) - t).toNat = 0) ∨
      r = 2 ^ 53 ∧ (Format.binary64.targetExponent (totalExponent r t) - t).toNat = 1 := by
  rw [targetExponent_eq, totalExponent]
  rcases Nat.lt_or_eq_of_le hr with hlt | rfl
  · have hlog := log2_lt_of_lt (by decide) hlt
    exact .inl ⟨hlt, by omega⟩
  · rw [Nat.log2_two_pow]
    exact .inr ⟨rfl, by omega⟩

theorem roundWithAccuracy_eq_placed (s : Sign) (m : Nat) (e : Int) (a : Accuracy) :
    roundWithAccuracy Format.binary64 s m e a =
      let cut := shiftToTargetExponent Format.binary64 m e a
      let kept := shiftToTargetExponent Format.binary64 cut.1.roundedMantissa cut.2 .exact
      placed s kept.1.mantissa kept.2 := rfl

/-- A shift cuts the mantissa to size, it is rounded, and a second shift takes back what
rounding made too long. -/
theorem roundWithAccuracy_eq (s : Sign) {m : Nat} {e t : Int} (a : Accuracy)
    (ht : Format.binary64.targetExponent (totalExponent m e) = t) (he : e ≤ t) :
    ∃ r, m / 2 ^ (t - e).toNat ≤ r ∧ r ≤ m / 2 ^ (t - e).toNat + 1 ∧
      (r < 2 ^ 53 ∧ roundWithAccuracy Format.binary64 s m e a = placed s r t ∨
        r = 2 ^ 53 ∧ roundWithAccuracy Format.binary64 s m e a = placed s (2 ^ 52) (t + 1)) := by
  have hplace : e + ((t - e).toNat : Int) = t := by omega
  have hsize : m / 2 ^ (t - e).toNat < 2 ^ 53 := by
    refine div_pow_lt ?_
    rw [targetExponent_eq, totalExponent] at ht
    omega
  have hleast : -1074 ≤ t := by
    rw [targetExponent_eq] at ht
    omega
  obtain ⟨hlo, hhi⟩ := roundedMantissa_bounds
    (ExtendedMantissa.ofMantissaAndAccuracy m a >>> (t - e).toNat)
  rw [mantissa_shiftRight, mantissa_ofMantissaAndAccuracy] at hlo hhi
  refine ⟨_, hlo, hhi, ?_⟩
  have heq : ∀ {r k},
      (ExtendedMantissa.ofMantissaAndAccuracy m a >>> (t - e).toNat).roundedMantissa = r →
      (Format.binary64.targetExponent (totalExponent r t) - t).toNat = k →
      roundWithAccuracy Format.binary64 s m e a = placed s (r / 2 ^ k) (t + k) := by
    rintro _ _ rfl rfl
    simp only [roundWithAccuracy_eq_placed, shiftToTargetExponent, shiftToExponent, ht, hplace,
      mantissa_shiftRight, mantissa_ofMantissaAndAccuracy]
  obtain ⟨hr, hshift⟩ | ⟨hr, hshift⟩ := secondShift (hhi.trans hsize) hleast
  · have hplaced := heq rfl hshift
    rw [Nat.pow_zero, Nat.div_one, Int.natCast_zero, Int.add_zero] at hplaced
    exact .inl ⟨hr, hplaced⟩
  · rw [hr] at hshift
    exact .inr ⟨hr, heq hr hshift⟩

/-- A mantissa and an exponent with enough digits are rounded to a number of about the
same size; what is less than every number of full length may get zero. -/
theorem roundWithAccuracy_cases (s : Sign) {m : Nat} {e : Int} (a : Accuracy)
    (he : e ≤ Format.binary64.targetExponent (totalExponent m e)) :
    ∃ q x, roundWithAccuracy Format.binary64 s m e a = placed s q x ∧
      (totalExponent m e < -1021 ∧ q ≤ 2 ^ 52 ∧ x = -1074 ∨
        Canonical q x ∧ q ≠ 0 ∧ totalExponent m e ≤ totalExponent q x ∧
          totalExponent q x ≤ totalExponent m e + 1) := by
  obtain ⟨t, ht⟩ : ∃ t, Format.binary64.targetExponent (totalExponent m e) = t := ⟨_, rfl⟩
  rw [ht] at he
  obtain ⟨r, hlo, hhi, hr⟩ := roundWithAccuracy_eq s a ht he
  rw [targetExponent_eq] at ht
  rcases lt_or_ge (totalExponent m e) (-1021) with hsmall | hbig
  · -- Too small for the full length: the mantissa has less than 53 digits.
    have hlt : m / 2 ^ (t - e).toNat < 2 ^ 52 := by
      refine div_pow_lt ?_
      rw [totalExponent] at hsmall
      omega
    rcases hr with ⟨-, heq⟩ | ⟨rfl, -⟩
    · exact ⟨r, t, heq, .inl ⟨hsmall, by omega, by omega⟩⟩
    · omega
  · have hge : 2 ^ 52 ≤ m / 2 ^ (t - e).toNat := by
      refine le_div_pow ?_ ?_
      · rintro rfl
        rw [totalExponent, Nat.log2_zero] at ht hbig
        omega
      · rw [totalExponent] at ht hbig
        omega
    have htotal : ∀ {q x}, q.log2 = 52 → totalExponent q x = x + 53 := by
      intro q x hq
      rw [totalExponent, hq]
      omega
    rcases hr with ⟨hr, heq⟩ | ⟨rfl, heq⟩
    · have hlog : r.log2 = 52 := by
        rw [Nat.log2_eq_iff (by omega)]
        omega
      refine ⟨r, t, heq, .inr ⟨⟨hr, by omega, .inl (by omega)⟩, by omega, ?_⟩⟩
      rw [htotal hlog]
      omega
    · have hlog : (2 ^ 52).log2 = 52 := Nat.log2_two_pow
      refine ⟨2 ^ 52, t + 1, heq, .inr ⟨⟨by decide, by omega, .inl (Nat.le_refl _)⟩, by decide, ?_⟩⟩
      rw [htotal hlog]
      omega

/-! ## Packing -/

theorem unpack_pack_zero (s : Sign) : ∃ s', (Float.Model.pack (.zero s)).unpack = .zero s' := by
  cases s with
  | negative => exact ⟨.negative, by rfl⟩
  | positive => exact ⟨.positive, by rfl⟩

theorem toNat_implicit (m : BitVec 52) : (1#1 ++ m).toNat = 2 ^ 52 + m.toNat := by
  rw [BitVec.toNat_append, ← Nat.shiftLeft_add_eq_or_of_lt m.isLt, Nat.shiftLeft_eq]
  simp

theorem finite_congr {s : Sign} {m m' : Nat} {e e' : Int} {hm : 0 < m} (hmm : m = m')
    (hee : e = e') : UnpackedFloat.finite s m e hm = .finite s m' e' (hmm ▸ hm) := by
  subst hmm hee
  rfl

/-- Unpacking parts of a number of full length. -/
theorem unpack_full {v : BitVec Format.binary64.numBits} {m : Nat} {b : Nat} (hb : 0 < b)
    (hb' : b < 2047) (hm : 2 ^ 52 ≤ m) (hm' : m < 2 ^ 53)
    (hexponent : unpackExponent v = BitVec.ofNat 11 b)
    (hmantissa : unpackMantissa v = BitVec.ofNat 52 m) :
    ∃ s, unpack Format.binary64 v = .finite s m (b - 1075) (by omega) := by
  have hexp : (BitVec.ofNat 11 b).toNat = b := by
    rw [BitVec.toNat_ofNat, Nat.mod_eq_of_lt (by omega)]
  have hones : unpackExponent v ≠ -1#11 := by
    rw [hexponent, ne_eq, ← BitVec.toNat_inj, hexp, show (-1#11).toNat = 2047 from rfl]
    omega
  have hzero : unpackExponent v ≠ 0#11 := by
    rw [hexponent, ne_eq, ← BitVec.toNat_inj, hexp, BitVec.toNat_zero]
    omega
  have hmant : (1#1 ++ unpackMantissa v).toNat = m := by
    rw [hmantissa, toNat_implicit, BitVec.toNat_ofNat]
    omega
  refine ⟨.ofBitVec (unpackSign v), ?_⟩
  delta Float.Model.UnpackedFloat.unpack
  dsimp only
  rw [if_neg hones, if_neg hzero]
  refine finite_congr hmant ?_
  rw [hexponent, hexp]
  rfl

/-- Unpacking parts of a number at the least exponent. -/
theorem unpack_least {v : BitVec Format.binary64.numBits} {m : Nat} (hm : 0 < m)
    (hm' : m < 2 ^ 52) (hexponent : unpackExponent v = 0#11)
    (hmantissa : unpackMantissa v = BitVec.ofNat 52 m) :
    ∃ s, unpack Format.binary64 v = .finite s m (-1074) hm := by
  have hmant : (unpackMantissa v).toNat = m := by
    rw [hmantissa, BitVec.toNat_ofNat, Nat.mod_eq_of_lt (by omega)]
  have hones : unpackExponent v ≠ -1#11 := by
    rw [hexponent]
    decide
  have hzero : unpackMantissa v ≠ 0#52 := by
    rw [ne_eq, ← BitVec.toNat_inj, hmant, BitVec.toNat_zero]
    omega
  refine ⟨.ofBitVec (unpackSign v), ?_⟩
  delta Float.Model.UnpackedFloat.unpack
  dsimp only
  rw [if_neg hones, if_pos hexponent, dif_neg hzero]
  refine finite_congr hmant ?_
  rw [hexponent]
  rfl

theorem pack_finite (s : Sign) {m : Nat} {e : Int} (hm : 0 < m) :
    UnpackedFloat.pack Format.binary64 (.finite s m e hm) =
      if 2 ^ 11 ≤ (e + 1023 + 52).toNat + 1 then packedInfinity Format.binary64 s
      else if m.log2 + 1 = 53 then
        packComponents Format.binary64 s (BitVec.ofNat 11 (e + 1023 + 52).toNat) (BitVec.ofNat 52 m)
      else packComponents Format.binary64 s 0#11 (BitVec.ofNat 52 m) := rfl

/-- A number with its digits comes back from its packed form, but perhaps for its sign. -/
theorem unpack_pack_finite (s : Sign) {m : Nat} {e : Int} (hm : 0 < m) (hc : Canonical m e)
    (he : e ≤ 971) :
    ∃ s', (Float.Model.pack (.finite s m e hm)).unpack = .finite s' m e hm := by
  obtain ⟨hlt, hle, hfull⟩ := hc
  have hunpack : ∀ u, (Float.Model.pack u).unpack =
      unpack Format.binary64 (UnpackedFloat.pack Format.binary64 u) := fun u => rfl
  rw [hunpack, pack_finite, if_neg (by omega)]
  by_cases hfull' : 2 ^ 52 ≤ m
  · have hlog : m.log2 = 52 := by
      rw [Nat.log2_eq_iff (by omega)]
      omega
    rw [if_pos (by omega)]
    obtain ⟨s', hs⟩ := unpack_full (b := (e + 1023 + 52).toNat) (by omega) (by omega) hfull' hlt
      unpackExponent_packComponents unpackMantissa_packComponents
    exact ⟨s', hs.trans (finite_congr rfl (by omega))⟩
  · have hlog : m.log2 < 52 := (Nat.log2_lt (by omega)).mpr (by omega)
    rw [if_neg (by omega)]
    obtain rfl := hfull.resolve_left hfull'
    exact unpack_least hm (by omega) unpackExponent_packComponents unpackMantissa_packComponents

end QueryBind.Floats
