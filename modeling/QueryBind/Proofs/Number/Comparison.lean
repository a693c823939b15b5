import Mathlib.Data.Prod.Lex
import Mathlib.Order.Compare

/-!
# The order of finite floats

Floats are compared by sign, exponent and mantissa. For finite ones this is the order of
a rank, which is linear: `le_iff_rank` and `lt_iff_rank`.
-/

namespace QueryBind.Floats

open Float.Model Float.Model.UnpackedFloat

/-! ## Comparing parts -/

theorem compares_then {α β : Type} [LinearOrder α] [LinearOrder β] {a a' : α} {b b' : β}
    {o o' : Ordering} (h : o.Compares a a') (h' : o'.Compares b b') :
    (o.then o').Compares (toLex (a, b)) (toLex (a', b')) := by
  cases o with
  | lt => exact Prod.Lex.toLex_lt_toLex.mpr (.inl h)
  | gt => exact Prod.Lex.toLex_lt_toLex.mpr (.inl h)
  | eq =>
      obtain rfl : a = a' := h
      cases o' with
      | lt => exact Prod.Lex.toLex_lt_toLex.mpr (.inr ⟨rfl, h'⟩)
      | gt => exact Prod.Lex.toLex_lt_toLex.mpr (.inr ⟨rfl, h'⟩)
      | eq =>
          obtain rfl : b = b' := h'
          rfl

theorem compares_compare {α : Type} [LinearOrder α] (a b : α) : (compare a b).Compares a b := by
  rw [← cmp_eq_compare]
  exact cmp_compares a b

theorem compares_neg {a b : ℤ} {o : Ordering} (h : o.Compares a b) : o.swap.Compares (-a) (-b) := by
  cases o with
  | lt => exact Int.neg_lt_neg h
  | gt => exact Int.neg_lt_neg h
  | eq => exact congrArg Neg.neg h

theorem compares_natCast {m n : ℕ} {o : Ordering} (h : o.Compares m n) :
    o.Compares (m : ℤ) (n : ℤ) := by
  cases o with
  | lt => exact Int.ofNat_lt.mpr h
  | gt => exact Int.ofNat_lt.mpr h
  | eq => exact congrArg Nat.cast h

theorem swap_then (o o' : Ordering) : (o.then o').swap = o.swap.then o'.swap := by
  cases o <;> rfl

/-! ## Ranks -/

/-- Where a finite number stands: by its sign, its exponent and its mantissa. -/
def rank : UnpackedFloat → ℤ ×ₗ ℤ ×ₗ ℤ
  | .finite .positive m e _ => toLex (1, toLex (e, (m : ℤ)))
  | .finite .negative m e _ => toLex (-1, toLex (-e, -(m : ℤ)))
  | _ => toLex (0, toLex (0, 0))

theorem exists_compare {x y : UnpackedFloat} (hx : x.isFinite) (hy : y.isFinite) :
    ∃ o, UnpackedFloat.compare x y = some o ∧ o.Compares (rank x) (rank y) := by
  have hless : ∀ {a b : ℤ} {p q : ℤ ×ₗ ℤ}, a < b → toLex (a, p) < toLex (b, q) :=
    fun h => Prod.Lex.toLex_lt_toLex.mpr (.inl h)
  cases x with
  | zero s =>
      cases y with
      | zero t => exact ⟨.eq, rfl, rfl⟩
      | finite t m e hm =>
          cases t with
          | positive => exact ⟨.lt, rfl, hless (by decide)⟩
          | negative => exact ⟨.gt, rfl, hless (by decide)⟩
      | _ => cases hy
  | finite s m e hm =>
      cases y with
      | zero t =>
          cases s with
          | positive => exact ⟨.gt, rfl, hless (by decide)⟩
          | negative => exact ⟨.lt, rfl, hless (by decide)⟩
      | finite t m' e' hm' =>
          have he := compares_compare e e'
          have hm := compares_compare m m'
          cases s with
          | positive =>
              cases t with
              | positive =>
                  refine ⟨_, rfl, ?_⟩
                  exact compares_then (o := .eq) rfl (compares_then he (compares_natCast hm))
              | negative => exact ⟨.gt, rfl, hless (by decide)⟩
          | negative =>
              cases t with
              | positive => exact ⟨.lt, rfl, hless (by decide)⟩
              | negative =>
                  refine ⟨_, rfl, ?_⟩
                  rw [swap_then]
                  exact compares_then (o := .eq) rfl (compares_then (compares_neg he)
                    (compares_neg (compares_natCast hm)))
      | _ => cases hy
  | _ => cases hx

theorem le_iff_rank {x y : Float} (hx : x.isFinite) (hy : y.isFinite) :
    x ≤ y ↔ rank x.toModel.unpack ≤ rank y.toModel.unpack := by
  obtain ⟨o, heq, ho⟩ := exists_compare hx hy
  have hle : x ≤ y ↔ o.isLE := by
    change decide (UnpackedFloat.le x.toModel.unpack y.toModel.unpack = true) = true ↔ _
    rw [UnpackedFloat.le, heq]
    simp
  rw [hle, ← ho.ne_gt]
  cases o <;> simp

theorem lt_iff_rank {x y : Float} (hx : x.isFinite) (hy : y.isFinite) :
    x < y ↔ rank x.toModel.unpack < rank y.toModel.unpack := by
  obtain ⟨o, heq, ho⟩ := exists_compare hx hy
  have hlt : x < y ↔ o = .lt := by
    change decide (UnpackedFloat.lt x.toModel.unpack y.toModel.unpack = true) = true ↔ _
    rw [UnpackedFloat.lt, heq]
    simp
  rw [hlt, ho.eq_lt]

theorem lt_iff_not_le {x y : Float} (hx : x.isFinite) (hy : y.isFinite) : x < y ↔ ¬ y ≤ x := by
  rw [lt_iff_rank hx hy, le_iff_rank hy hx, not_le]

theorem le_of_finite_trans {x y z : Float} (hx : x.isFinite) (hy : y.isFinite) (hz : z.isFinite)
    (hxy : x ≤ y) (hyz : y ≤ z) : x ≤ z := by
  rw [le_iff_rank hx hy] at hxy
  rw [le_iff_rank hy hz] at hyz
  exact (le_iff_rank hx hz).mpr (hxy.trans hyz)

theorem le_refl_of_finite {x : Float} (hx : x.isFinite) : x ≤ x :=
  (le_iff_rank hx hx).mpr le_rfl

theorem le_of_lt_of_finite {x y : Float} (hx : x.isFinite) (hy : y.isFinite) (h : x < y) :
    x ≤ y :=
  (le_iff_rank hx hy).mpr ((lt_iff_rank hx hy).mp h).le

end QueryBind.Floats
