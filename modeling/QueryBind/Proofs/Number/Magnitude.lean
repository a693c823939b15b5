import QueryBind.Proofs.Number.Floats

/-!
# How large floats get

Sums, products and quotients of finite floats are finite as long as they are far below
the greatest float, when nothing is divided by less than one. The bounds are powers of
two, and a few too high: each operation adds what its operands allow and one for the
rounding.

## Main definitions

- `Below n`: a float is finite and less than two to the power `n`.
- `OneOrMore`: a float is finite and, but for its sign, at least one.

## Main results

- `Below.add`, `Below.sub`, `Below.mul`, `Below.div`: bounds of the operations.
- `ofNat_spec`: bounds of the float of a whole number.
-/

namespace QueryBind.Floats

open Float.Model Float.Model.UnpackedFloat

/-! ## Sizes -/

/-- The number is finite, and less than two to this power. -/
def AtMost (n : Nat) : UnpackedFloat → Prop
  | .zero _ => True
  | .finite _ m e _ => Canonical m e ∧ totalExponent m e ≤ n
  | _ => False

/-- The number is finite and, but for its sign, one or more. -/
def AtLeastOne : UnpackedFloat → Prop
  | .finite _ m e _ => Canonical m e ∧ 1 ≤ totalExponent m e
  | _ => False

theorem AtMost.mono {n k : Nat} {u : UnpackedFloat} (h : AtMost n u) (hnk : n ≤ k) :
    AtMost k u := by
  cases u with
  | zero s => trivial
  | finite s m e hm => exact ⟨h.1, by have := h.2; omega⟩
  | _ => exact h

theorem atMost_placed {n : Nat} {s : Sign} {q : Nat} {x : Int} (hc : Canonical q x)
    (hn : totalExponent q x ≤ n) : AtMost n (placed s q x) := by
  by_cases hq : q = 0
  · rw [placed, dif_pos hq]
    trivial
  · rw [placed, dif_neg hq]
    exact ⟨hc, hn⟩

theorem roundWithAccuracy_atMost {n : Nat} (s : Sign) {m : Nat} {e : Int} (a : Accuracy)
    (he : e ≤ Format.binary64.targetExponent (totalExponent m e))
    (hn : totalExponent m e + 1 ≤ n) :
    AtMost n (roundWithAccuracy Format.binary64 s m e a) := by
  obtain ⟨q, x, heq, ⟨-, hq, rfl⟩ | ⟨hc, -, -, hle⟩⟩ := roundWithAccuracy_cases s a he
  · rw [heq]
    refine atMost_placed ⟨by omega, Int.le_refl _, .inr rfl⟩ ?_
    have hlog : q.log2 < 53 := log2_lt_of_lt (by decide) (by omega)
    rw [totalExponent]
    omega
  · rw [heq]
    exact atMost_placed hc (by omega)

theorem roundWithAccuracy_atLeastOne (s : Sign) {m : Nat} {e : Int} (a : Accuracy)
    (he : e ≤ Format.binary64.targetExponent (totalExponent m e)) (h : 1 ≤ totalExponent m e) :
    AtLeastOne (roundWithAccuracy Format.binary64 s m e a) := by
  obtain ⟨q, x, heq, ⟨hsmall, -, -⟩ | ⟨hc, hq, hle, -⟩⟩ := roundWithAccuracy_cases s a he
  · omega
  · rw [heq, placed, dif_neg hq]
    exact ⟨hc, by omega⟩

theorem exponent_le_of_atMost {m : Nat} {e : Int} {n : Nat} (hm : 0 < m) (hc : Canonical m e)
    (hn : totalExponent m e ≤ n) (hlimit : n ≤ 1024) : e ≤ 971 := by
  rcases hc.full with hfull | rfl
  · have hlog : 52 ≤ m.log2 := (Nat.le_log2 hm.ne').mpr hfull
    rw [totalExponent] at hn
    omega
  · omega

theorem AtMost.unpack_pack {n : Nat} {u : UnpackedFloat} (h : AtMost n u) (hn : n ≤ 1024) :
    AtMost n (Float.Model.pack u).unpack := by
  cases u with
  | zero s =>
      obtain ⟨s', heq⟩ := unpack_pack_zero s
      rw [heq]
      trivial
  | finite s m e hm =>
      obtain ⟨s', heq⟩ := unpack_pack_finite s hm h.1
        (exponent_le_of_atMost hm h.1 h.2 hn)
      rw [heq]
      exact h
  | _ => exact h.elim

theorem AtLeastOne.unpack_pack {n : Nat} {u : UnpackedFloat} (h : AtLeastOne u)
    (hmost : AtMost n u) (hn : n ≤ 1024) : AtLeastOne (Float.Model.pack u).unpack := by
  cases u with
  | finite s m e hm =>
      obtain ⟨s', heq⟩ := unpack_pack_finite s hm h.1
        (exponent_le_of_atMost hm h.1 hmost.2 hn)
      rw [heq]
      exact h
  | _ => exact h.elim

/-! ## Sums -/

/-- Rounding first gives a mantissa digits enough. -/
theorem exists_round_eq (s : Sign) {m : Nat} {e : Int} (hm : 0 < m) :
    ∃ m' e', UnpackedFloat.round Format.binary64 s m e =
        roundWithAccuracy Format.binary64 s m' e' .exact ∧
      totalExponent m' e' = totalExponent m e ∧
      e' ≤ Format.binary64.targetExponent (totalExponent m' e') := by
  obtain ⟨t, ht⟩ : ∃ t, Format.binary64.targetExponent (totalExponent m e) = t := ⟨_, rfl⟩
  have htotal : totalExponent (m <<< (e - t).toNat) (e - (e - t).toNat) = totalExponent m e := by
    rw [totalExponent, totalExponent, log2_shiftLeft hm.ne']
    omega
  refine ⟨_, _, ?_, htotal, ?_⟩
  · simp only [UnpackedFloat.round, decreaseExponent, ht]
  · rw [htotal, ht]
    omega

theorem round_atMost {n : Nat} (s : Sign) {m : Nat} {e : Int} (hm : 0 < m)
    (hn : totalExponent m e + 1 ≤ n) : AtMost n (UnpackedFloat.round Format.binary64 s m e) := by
  obtain ⟨m', e', heq, htotal, he⟩ := exists_round_eq s hm
  rw [heq]
  exact roundWithAccuracy_atMost s .exact he (by omega)

theorem round_atLeastOne (s : Sign) {m : Nat} {e : Int} (hm : 0 < m)
    (h : 1 ≤ totalExponent m e) : AtLeastOne (UnpackedFloat.round Format.binary64 s m e) := by
  obtain ⟨m', e', heq, htotal, he⟩ := exists_round_eq s hm
  rw [heq]
  exact roundWithAccuracy_atLeastOne s .exact he (by omega)

theorem normalize_atMost {n : Nat} {M : Int} {e : Int} (s : Sign) (he : e ≤ n)
    (hM : M.natAbs < 2 ^ (n + 1 - e).toNat) :
    AtMost (n + 2) (UnpackedFloat.normalize Format.binary64 M e s) := by
  have htotal : totalExponent M.natAbs e ≤ n + 1 := by
    have hlog := log2_lt_of_lt (by omega) hM
    rw [totalExponent]
    omega
  unfold UnpackedFloat.normalize
  split
  · next h =>
      have hneg : M < 0 := Int.compare_eq_lt.mp h
      rw [show (-M).toNat = M.natAbs by omega]
      exact round_atMost _ (by omega) (by omega)
  · trivial
  · next h =>
      have hpos : 0 < M := Int.compare_eq_gt.mp h
      rw [show M.toNat = M.natAbs by omega]
      exact round_atMost _ (by omega) (by omega)

theorem natAbs_apply (s : Sign) (k : Nat) : (s.apply k).natAbs = k := by
  cases s <;> simp [Sign.apply]

/-- A mantissa that is brought to a lower exponent. -/
theorem decreaseExponent_lt {n : Nat} {m : Nat} {e t : Int} (hm : 0 < m) (ht : t ≤ e)
    (hn : totalExponent m e ≤ n) : (decreaseExponent m e t).1 < 2 ^ (n - t).toNat := by
  have hlog := log2_shiftLeft hm.ne' (e - t).toNat
  have hpos : m <<< (e - t).toNat ≠ 0 := (Nat.shiftLeft_pos_iff.mpr hm).ne'
  rw [totalExponent] at hn
  exact (Nat.log2_lt hpos).mp (by omega)

/-- Two mantissas at the lower of their exponents, added or taken from each other. -/
theorem normalize_aligned_atMost {n : Nat} {m₁ m₂ : Nat} {e₁ e₂ : Int} (h₁ : 0 < m₁) (h₂ : 0 < m₂)
    (hn₁ : totalExponent m₁ e₁ ≤ n) (hn₂ : totalExponent m₂ e₂ ≤ n) (s : Sign) {M : Int}
    (hM : M.natAbs ≤ (decreaseExponent m₁ e₁ (min e₁ e₂)).1 +
      (decreaseExponent m₂ e₂ (min e₁ e₂)).1) :
    AtMost (n + 2) (UnpackedFloat.normalize Format.binary64 M (min e₁ e₂) s) := by
  have hlt₁ := decreaseExponent_lt h₁ (Int.min_le_left e₁ e₂) hn₁
  have hlt₂ := decreaseExponent_lt h₂ (Int.min_le_right e₁ e₂) hn₂
  have hle : min e₁ e₂ ≤ n := by
    rw [totalExponent] at hn₁
    omega
  refine normalize_atMost s hle ?_
  rw [show (n + 1 - min e₁ e₂ : Int).toNat = (n - min e₁ e₂).toNat + 1 by omega, Nat.pow_succ]
  omega

theorem add_atMost {n : Nat} {x y : UnpackedFloat} (hx : AtMost n x) (hy : AtMost n y) :
    AtMost (n + 2) (UnpackedFloat.add Format.binary64 x y) := by
  cases x with
  | zero s =>
      cases y with
      | zero t => cases s <;> cases t <;> trivial
      | finite t m e hm => exact hy.mono (Nat.le_add_right n 2)
      | _ => exact hy.elim
  | finite s m e hm =>
      cases y with
      | zero t => exact hx.mono (Nat.le_add_right n 2)
      | finite t m' e' hm' =>
          refine normalize_aligned_atMost hm hm' hx.2 hy.2 _ ?_
          refine (Int.natAbs_add_le _ _).trans ?_
          rw [natAbs_apply, natAbs_apply]
          exact Nat.le_refl _
      | _ => exact hy.elim
  | _ => exact hx.elim

theorem sub_atMost {n : Nat} {x y : UnpackedFloat} (hx : AtMost n x) (hy : AtMost n y) :
    AtMost (n + 2) (UnpackedFloat.sub Format.binary64 x y) := by
  cases x with
  | zero s =>
      cases y with
      | zero t => cases s <;> cases t <;> trivial
      | finite t m e hm => exact AtMost.mono (u := .finite (-t) m e hm) hy (Nat.le_add_right n 2)
      | _ => exact hy.elim
  | finite s m e hm =>
      cases y with
      | zero t => exact hx.mono (Nat.le_add_right n 2)
      | finite t m' e' hm' =>
          refine normalize_aligned_atMost hm hm' hx.2 hy.2 _ ?_
          refine (Int.natAbs_sub_le _ _).trans ?_
          rw [natAbs_apply, natAbs_apply]
          exact Nat.le_refl _
      | _ => exact hy.elim
  | _ => exact hx.elim

/-! ## Products and quotients -/

theorem log2_mul_bounds {m₁ m₂ : Nat} (h₁ : 0 < m₁) (h₂ : 0 < m₂) :
    m₁.log2 + m₂.log2 ≤ (m₁ * m₂).log2 ∧ (m₁ * m₂).log2 ≤ m₁.log2 + m₂.log2 + 1 := by
  have hne : m₁ * m₂ ≠ 0 := (Nat.mul_pos h₁ h₂).ne'
  constructor
  · rw [Nat.le_log2 hne, Nat.pow_add]
    exact Nat.mul_le_mul (Nat.log2_self_le h₁.ne') (Nat.log2_self_le h₂.ne')
  · refine Nat.le_of_lt_succ ((Nat.log2_lt hne).mpr ?_)
    calc m₁ * m₂ < 2 ^ (m₁.log2 + 1) * 2 ^ (m₂.log2 + 1) :=
          Nat.mul_lt_mul'' Nat.lt_log2_self Nat.lt_log2_self
      _ = 2 ^ (m₁.log2 + m₂.log2 + 1 + 1) := by
          rw [← Nat.pow_add]
          congr 1
          omega

/-- The product of two numbers with all their digits has digits enough. -/
theorem product_exponent_le {m₁ m₂ : Nat} {e₁ e₂ : Int} (h₁ : 0 < m₁) (h₂ : 0 < m₂)
    (hc₁ : Canonical m₁ e₁) (hc₂ : Canonical m₂ e₂) :
    e₁ + e₂ ≤ Format.binary64.targetExponent (totalExponent (m₁ * m₂) (e₁ + e₂)) := by
  have hlog := (log2_mul_bounds h₁ h₂).1
  have hfull₁ := hc₁.full.imp_left (Nat.le_log2 h₁.ne').mpr
  have hfull₂ := hc₂.full.imp_left (Nat.le_log2 h₂.ne').mpr
  rw [targetExponent_eq, totalExponent]
  omega

theorem mul_finite (s t : Sign) {m m' : Nat} {e e' : Int} (hm : 0 < m) (hm' : 0 < m') :
    UnpackedFloat.mul Format.binary64 (.finite s m e hm) (.finite t m' e' hm') =
      roundWithAccuracy Format.binary64 (s * t) (m * m') (e + e') .exact := rfl

theorem mul_atMost {n k : Nat} {x y : UnpackedFloat} (hx : AtMost n x) (hy : AtMost k y) :
    AtMost (n + k + 1) (UnpackedFloat.mul Format.binary64 x y) := by
  cases x with
  | zero s =>
      cases y with
      | zero t => trivial
      | finite t m e hm => trivial
      | _ => exact hy.elim
  | finite s m e hm =>
      cases y with
      | zero t => trivial
      | finite t m' e' hm' =>
          rw [mul_finite]
          refine roundWithAccuracy_atMost _ .exact (product_exponent_le hm hm' hx.1 hy.1) ?_
          have hlog := (log2_mul_bounds hm hm').2
          have hn := hx.2
          have hk := hy.2
          rw [totalExponent] at hn hk ⊢
          omega
      | _ => exact hy.elim
  | _ => exact hx.elim

theorem mul_atLeastOne {x y : UnpackedFloat} (hx : AtLeastOne x) (hy : AtLeastOne y) :
    AtLeastOne (UnpackedFloat.mul Format.binary64 x y) := by
  cases x with
  | finite s m e hm =>
      cases y with
      | finite t m' e' hm' =>
          rw [mul_finite]
          refine roundWithAccuracy_atLeastOne _ .exact (product_exponent_le hm hm' hx.1 hy.1) ?_
          have hlog := (log2_mul_bounds hm hm').1
          have hn := hx.2
          have hk := hy.2
          rw [totalExponent] at hn hk ⊢
          omega
      | _ => exact hy.elim
  | _ => exact hx.elim

/-- The digits of a quotient of mantissas are as many as the difference, or one fewer. -/
theorem log2_div_bounds {m₁ m₂ : Nat} (h₁ : 0 < m₁) (h₂ : 0 < m₂) :
    (m₂.log2 < m₁.log2 → m₁ / m₂ ≠ 0 ∧ m₁.log2 ≤ (m₁ / m₂).log2 + m₂.log2 + 1) ∧
      (m₁ / m₂ ≠ 0 → (m₁ / m₂).log2 + m₂.log2 ≤ m₁.log2) := by
  constructor
  · intro hlt
    have hle : 2 ^ (m₁.log2 - m₂.log2 - 1) ≤ m₁ / m₂ :=
      calc 2 ^ (m₁.log2 - m₂.log2 - 1) ≤ m₁ / 2 ^ (m₂.log2 + 1) := le_div_pow h₁.ne' (by omega)
        _ ≤ m₁ / m₂ := Nat.div_le_div_left (Nat.le_of_lt Nat.lt_log2_self) h₂
    have hne : m₁ / m₂ ≠ 0 := (Nat.lt_of_lt_of_le (Nat.two_pow_pos _) hle).ne'
    have hlog := (Nat.le_log2 hne).mpr hle
    exact ⟨hne, by omega⟩
  · intro hne
    rw [Nat.le_log2 h₁.ne', Nat.pow_add]
    calc 2 ^ (m₁ / m₂).log2 * 2 ^ m₂.log2 ≤ m₁ / m₂ * m₂ :=
          Nat.mul_le_mul (Nat.log2_self_le hne) (Nat.log2_self_le h₂.ne')
      _ ≤ m₁ := Nat.div_mul_le_self m₁ m₂

/-- A quotient is that of the mantissas, of which the first is shifted as far as it takes
to have digits enough. -/
theorem exists_div_eq (s t : Sign) {m m' : Nat} {e e' p : Int} (hm : 0 < m) (hm' : 0 < m')
    (hp : min (e - e') (Format.binary64.targetExponent
      (totalExponent m e - totalExponent m' e')) = p) :
    ∃ a, UnpackedFloat.div Format.binary64 (.finite s m e hm) (.finite t m' e' hm') =
      roundWithAccuracy Format.binary64 (s / t) (m <<< (e - e' - p).toNat / m') p a := by
  subst hp
  exact ⟨_, rfl⟩

theorem div_atMost {n : Nat} {x y : UnpackedFloat} (hx : AtMost n x) (hy : AtLeastOne y) :
    AtMost (n + 1) (UnpackedFloat.div Format.binary64 x y) := by
  cases y with
  | finite t m' e' hm' =>
      cases x with
      | zero s => trivial
      | finite s m e hm =>
          obtain ⟨p, hp⟩ : ∃ p, min (e - e') (Format.binary64.targetExponent
            (totalExponent m e - totalExponent m' e')) = p := ⟨_, rfl⟩
          obtain ⟨a, heq⟩ := exists_div_eq s t hm hm' hp
          rw [heq]
          have hlog := log2_shiftLeft hm.ne' (e - e' - p).toNat
          have hpos : 0 < m <<< (e - e' - p).toNat := Nat.shiftLeft_pos_iff.mpr hm
          obtain ⟨hlo, hhi⟩ := log2_div_bounds hpos hm'
          have hn := hx.2
          have hone := hy.2
          rw [targetExponent_eq, totalExponent, totalExponent] at hp
          rw [totalExponent] at hn hone
          have hzero : m <<< (e - e' - p).toNat / m' = 0 →
              (m <<< (e - e' - p).toNat / m').log2 = 0 := fun h => by rw [h, Nat.log2_zero]
          refine roundWithAccuracy_atMost _ _ ?_ ?_
          · rw [targetExponent_eq, totalExponent]
            omega
          · rw [totalExponent]
            omega
      | _ => exact hx.elim
  | _ => exact hy.elim

/-! ## Floats -/

/-- The float is finite, and less than two to this power. -/
def Below (n : Nat) (x : Float) : Prop := AtMost n x.toModel.unpack

/-- The float is finite and, but for its sign, one or more. -/
def OneOrMore (x : Float) : Prop := AtLeastOne x.toModel.unpack

section Operations

variable {n k : Nat} {x y : Float}

theorem Below.isFinite (hx : Below n x) : x.isFinite := by
  change x.toModel.unpack.isFinite = true
  rw [Below] at hx
  cases hu : x.toModel.unpack with
  | zero s => rfl
  | finite s m e hm => rfl
  | _ => rw [hu] at hx; exact hx.elim

theorem Below.mono (hx : Below n x) (hnk : n ≤ k) : Below k x := AtMost.mono hx hnk

theorem Below.add (hx : Below n x) (hy : Below n y) (hn : n + 2 ≤ 1024) :
    Below (n + 2) (x + y) :=
  (add_atMost hx hy).unpack_pack hn

theorem Below.sub (hx : Below n x) (hy : Below n y) (hn : n + 2 ≤ 1024) :
    Below (n + 2) (x - y) :=
  (sub_atMost hx hy).unpack_pack hn

theorem Below.mul (hx : Below n x) (hy : Below k y) (hn : n + k + 1 ≤ 1024) :
    Below (n + k + 1) (x * y) :=
  (mul_atMost hx hy).unpack_pack hn

theorem Below.div (hx : Below n x) (hy : OneOrMore y) (hn : n + 1 ≤ 1024) :
    Below (n + 1) (x / y) :=
  (div_atMost hx hy).unpack_pack hn

theorem OneOrMore.mul (hx : OneOrMore x) (hy : OneOrMore y) (hbelow : Below n x)
    (hbelow' : Below k y) (hn : n + k + 1 ≤ 1024) : OneOrMore (x * y) :=
  (mul_atLeastOne hx hy).unpack_pack (mul_atMost hbelow hbelow') hn

end Operations

/-! ## Whole numbers -/

theorem totalExponent_whole_le {n : Nat} (hn : n < 2 ^ 63) : totalExponent n 0 ≤ 63 := by
  have hlog := log2_lt_of_lt (by decide) hn
  rw [totalExponent]
  omega

theorem normalize_whole {n : Nat} (hn : 0 < n) (s : Sign) :
    UnpackedFloat.normalize Format.binary64 n 0 s =
      UnpackedFloat.round Format.binary64 .positive n 0 := by
  rw [UnpackedFloat.normalize, Int.compare_eq_gt.mpr (by omega), Int.toNat_natCast]

theorem toFloat_spec {n : Nat} (hn : n < 2 ^ 63) :
    Below 64 n.toUInt64.toFloat ∧ (0 < n → OneOrMore n.toUInt64.toFloat) := by
  have htoNat : n.toUInt64.toNat = n := Nat.mod_eq_of_lt (by omega)
  have heq : n.toUInt64.toFloat.toModel.unpack =
      (Float.Model.pack (UnpackedFloat.normalize Format.binary64 n 0 .positive)).unpack := by
    conv_rhs => rw [← htoNat]
    rfl
  have hle := totalExponent_whole_le hn
  rw [Below, OneOrMore, heq]
  rcases Nat.eq_zero_or_pos n with rfl | hpos
  · exact ⟨AtMost.unpack_pack (u := .zero .positive) trivial (by decide), fun h => by omega⟩
  · have hmost : AtMost 64 (UnpackedFloat.round Format.binary64 .positive n 0) :=
      round_atMost _ hpos (by omega)
    rw [normalize_whole hpos]
    refine ⟨hmost.unpack_pack (by decide), fun _ => ?_⟩
    refine AtLeastOne.unpack_pack (round_atLeastOne _ hpos ?_) hmost (by decide)
    rw [totalExponent]
    omega

/-- The float that a short whole number is multiplied with when it is read. -/
theorem one_spec : Below 1 1.0 ∧ OneOrMore 1.0 := by
  have hunpack : (1.0 : Float).toModel.unpack =
      .finite .positive (2 ^ 52) (-52) (by decide) := rfl
  have hcanonical : Canonical (2 ^ 52) (-52) := ⟨by decide, by decide, .inl (Nat.le_refl _)⟩
  rw [Below, OneOrMore, hunpack]
  exact ⟨⟨hcanonical, by decide⟩, ⟨hcanonical, by decide⟩⟩

theorem exists_ofScientific_eq {n : Nat} (hpos : 0 < n) :
    ∃ m' e', UnpackedFloat.ofScientific Format.binary64 n 0 =
        roundWithAccuracy Format.binary64 .positive m' e' .exact ∧
      totalExponent m' e' = totalExponent n 0 ∧
      e' ≤ Format.binary64.targetExponent (totalExponent m' e') := by
  have hbits : (2 : Int) ^ Format.binary64.exponentBits = 2048 := by decide
  have htotal : totalExponent (n <<< 53 * 1) (-53 + 0) = totalExponent n 0 := by
    rw [Nat.mul_one, totalExponent, totalExponent, log2_shiftLeft hpos.ne']
    omega
  refine ⟨n <<< 53 * 1, -53 + 0, ?_, htotal, ?_⟩
  · rw [UnpackedFloat.ofScientific, dif_neg hpos.ne', if_neg (by omega), if_neg (by omega),
      if_pos (Int.le_refl 0), mul_finite]
    exact congrArg₂ (fun m e => roundWithAccuracy Format.binary64 .positive m e .exact) rfl rfl
  · rw [htotal, targetExponent_eq, totalExponent]
    omega

theorem ofScientific_spec {n : Nat} (hpos : 0 < n) (hn : n < 2 ^ 63) :
    AtMost 64 (UnpackedFloat.ofScientific Format.binary64 n 0) ∧
      AtLeastOne (UnpackedFloat.ofScientific Format.binary64 n 0) := by
  have hle := totalExponent_whole_le hn
  have hleast : 1 ≤ totalExponent n 0 := by
    rw [totalExponent]
    omega
  obtain ⟨m', e', heq, htotal, he⟩ := exists_ofScientific_eq hpos
  rw [heq]
  exact ⟨roundWithAccuracy_atMost _ .exact he (by omega),
    roundWithAccuracy_atLeastOne _ .exact he (by omega)⟩

theorem ofNat_spec {n : Nat} (hn : n < 2 ^ 63) :
    Below 66 (Float.ofNat n) ∧ (0 < n → OneOrMore (Float.ofNat n)) := by
  change Below 66 (Float.ofScientific n false 0) ∧
    (0 < n → OneOrMore (Float.ofScientific n false 0))
  unfold Float.ofScientific
  split
  · next h =>
      have hone : ∀ h, getElem Float.exactlyRepresentablePowersOfTen 0 h = 1.0 := fun _ => rfl
      obtain ⟨hbelow, hmore⟩ := toFloat_spec hn
      simp only [Bool.false_eq_true, if_false, hone]
      exact ⟨hbelow.mul one_spec.1 (by decide), fun hpos =>
        (hmore hpos).mul one_spec.2 hbelow one_spec.1 (by decide)⟩
  · next h =>
      obtain ⟨hmost, hleast⟩ := ofScientific_spec (n := n) (by omega) hn
      exact ⟨(hmost.unpack_pack (by decide)).mono (by decide), fun _ =>
        hleast.unpack_pack hmost (by decide)⟩

end QueryBind.Floats
