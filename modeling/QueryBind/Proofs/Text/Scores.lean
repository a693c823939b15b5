import QueryBind.Proofs.Number.Magnitude
import QueryBind.Text.Resemblance

/-!
# Scores are numbers

The resemblance of two names is computed with floats. As long as the names have fewer
characters than a memory can hold, no step of it overflows or divides by zero, so that
every score is finite and scores can be compared.
-/

namespace QueryBind.Text

open Floats

/-! ## Counts -/

/-- No more characters are paired than there are in the first name. -/
theorem pairUp_length (reach i : Nat) (as : List Char) (bs : List (Char × Bool)) :
    (pairUp reach i as bs).1.length ≤ as.length := by
  induction as generalizing i bs with
  | nil => exact Nat.le_refl _
  | cons a as ih =>
      rw [pairUp]
      split
      · exact (ih _ _).trans (Nat.le_succ _)
      · exact Nat.succ_le_succ (ih _ _)

theorem commonStart_le (as bs : List Char) : commonStart as bs ≤ as.length := by
  fun_induction commonStart as bs with
  | case1 a as bs ih => exact Nat.succ_le_succ ih
  | case2 => exact Nat.zero_le _
  | case3 => exact Nat.zero_le _

/-! ## The scales -/

theorem below_zero : Below 1 0.0 := by
  have hunpack : (0.0 : Float).toModel.unpack = .zero .positive := rfl
  rw [Below, hunpack]
  trivial

theorem oneOrMore_three : OneOrMore 3.0 := by
  have hunpack : (3.0 : Float).toModel.unpack =
      .finite .positive (3 * 2 ^ 51) (-51) (by decide) := rfl
  rw [OneOrMore, hunpack]
  exact ⟨⟨by decide, by decide, .inl (by decide)⟩, by decide⟩

theorem below_tenth : Below 1 0.1 := by
  have hunpack : (0.1 : Float).toModel.unpack =
      .finite .positive 7205759403792794 (-56) (by decide) := rfl
  rw [Below, hunpack]
  exact ⟨⟨by decide, by decide, .inl (by decide)⟩, by decide⟩

/-- The mean of three quotients, each of a count by a count that is not zero. -/
theorem mean_below {found swaps first second : Nat} (hfound : 0 < found) (hle : found ≤ first)
    (hfirst : first < 2 ^ 63) (hsecond : 0 < second) (hlt : second < 2 ^ 63) :
    Below 72 ((Float.ofNat found / Float.ofNat first + Float.ofNat found / Float.ofNat second +
      Float.ofNat (found - swaps) / Float.ofNat found) / 3.0) := by
  have hcount : found < 2 ^ 63 := hle.trans_lt hfirst
  obtain ⟨hm, hone⟩ := ofNat_spec hcount
  have hquot := hm.div ((ofNat_spec hfirst).2 (hfound.trans_le hle)) (by decide)
  have hquot' := hm.div ((ofNat_spec hlt).2 hsecond) (by decide)
  have hrest : Below 66 (Float.ofNat (found - swaps)) :=
    (ofNat_spec ((Nat.sub_le _ _).trans_lt hcount)).1
  have hquot'' := hrest.div (hone hfound) (by decide)
  have hsum := hquot.add hquot' (by decide)
  exact (hsum.add (hquot''.mono (by decide)) (by decide)).div oneOrMore_three (by decide)

theorem jaro_below {as bs : List Char} (has : as.length < 2 ^ 63) (hbs : bs.length < 2 ^ 63) :
    Below 72 (jaro as bs) := by
  unfold jaro
  split
  · exact one_spec.1.mono (by decide)
  split
  · exact below_zero.mono (by decide)
  · next hsome =>
      obtain ⟨-, hne⟩ : as ≠ [] ∧ bs ≠ [] := by simpa using hsome
      dsimp only
      split
      · exact below_zero.mono (by decide)
      · next hfound =>
          refine mean_below (List.length_pos_iff.mpr ?_) (pairUp_length _ _ _ _) has
            (List.length_pos_iff.mpr hne) hbs
          simpa using hfound

theorem resemblance_below {as bs : List Char} (has : as.length < 2 ^ 63)
    (hbs : bs.length < 2 ^ 63) : Below 145 (resemblance as bs) := by
  have hscale := jaro_below has hbs
  unfold resemblance
  dsimp only
  split
  · have hstart : commonStart (as.take 4) (bs.take 4) < 2 ^ 63 :=
      (commonStart_le _ _).trans_lt ((List.length_take_le' 4 as).trans_lt has)
    have htenths := below_tenth.mul (ofNat_spec hstart).1 (by decide)
    have hmissing := (one_spec.1.mono (by decide)).sub hscale (by decide)
    have hbonus := htenths.mul hmissing (by decide)
    exact (hscale.mono (by decide)).add hbonus (by decide)
  · exact hscale.mono (by decide)

end QueryBind.Text
