import QueryBind.Proofs.Binding.Typing
import QueryBind.Proofs.Number.Rounding
import QueryBind.Proofs.Value.Numbers

/-!
# Whole literals among fields of numbers

A whole literal is converted towards whatever numbers it faces: it stays as it is,
becomes wider, or becomes a double. Only the last may change its number, as 64 bits
hold numbers that lie between two doubles. It does so exactly for the numbers of more
than 53 binary digits before the zeros at their end; the literal that is compared is
then the nearest one, and literals of different numbers may have become one.
-/

namespace QueryBind

open Number

namespace Literal

/-! ## The numbers of literals -/

/-- The number of a literal of a whole type. -/
def whole? : Literal → Option Int
  | integer n => some n.toInt
  | bigint n => some n.toInt
  | _ => none

/-- The number that a literal is, if it is one. -/
def number? : Literal → Option ℚ
  | double x => x.value?
  | v => v.whole?.map fun n => (n : ℚ)

theorem number?_double (x : Double) : number? (.double x) = x.value? := rfl

theorem number?_of_whole? {v : Literal} {n : Int} (h : v.whole? = some n) :
    v.number? = some (n : ℚ) := by
  cases v with
  | integer m | bigint m =>
      cases h
      rfl
  | _ => cases h

/-- Equal literals are the same number or none. -/
theorem number?_eq_of_beq {v w : Literal} (h : (v == w) = true) : v.number? = w.number? := by
  cases v <;> cases w
  case double.double x y => exact Double.value?_eq_of_beq h
  all_goals simp_all [BEq.beq, instBEqLiteral.beq, number?, whole?]

theorem natAbs_le_of_whole? {v : Literal} {n : Int} (h : v.whole? = some n) :
    n.natAbs ≤ 2 ^ 63 := by
  cases v with
  | integer m | bigint m =>
      cases h
      have hlow := m.le_toInt
      have hhigh := m.toInt_lt
      omega
  | _ => cases h

/-- The numbers of 32 bits all have room, and so have those up to `2 ^ 53`. -/
theorem fitsDouble_of_small {v : Literal} {n : Int} (hv : v.whole? = some n)
    (h : v.type = .integer ∨ n.natAbs ≤ 2 ^ 53) : Double.FitsDouble n := by
  have hle : n.natAbs ≤ 2 ^ 53 := by
    rcases h with h | h
    · cases v with
      | integer m =>
          cases hv
          have hlow := m.le_toInt
          have hhigh := m.toInt_lt
          omega
      | _ => cases h
    · exact h
  rcases hle.lt_or_eq with hlt | heq
  · exact ⟨n.natAbs, 0, hlt, by simp⟩
  · exact ⟨1, 53, by decide, by rw [heq, one_mul]⟩

/-! ## Conversion -/

/-- Among numbers a whole literal becomes a literal of its number, unless the type is
a floating one; then the nearest double. -/
theorem convertFor_whole {v : Literal} {n : Int} {type : ColumnType}
    (hv : v.whole? = some n) (htype : type.isNumeric = true) :
    ∃ w, v.convertFor type = .ok w ∧
      (type.isIntegral = true ∧ w.whole? = some n ∨
        type.isIntegral = false ∧ w = .double (.ofInt n)) := by
  cases v with
  | integer m | bigint m =>
      cases hv
      cases type with
      | integer => exact ⟨_, rfl, .inl ⟨rfl, rfl⟩⟩
      | bigint => exact ⟨_, rfl, .inl ⟨rfl, by simp [whole?]⟩⟩
      | float | double => exact ⟨_, rfl, .inr ⟨rfl, rfl⟩⟩
      | _ => cases htype
  | _ => cases hv

variable {v w : Literal} {n : Int} {type : ColumnType}

/-- A whole literal keeps its number exactly where there is room for it. -/
theorem number?_of_convertFor_iff (hv : v.whole? = some n) (htype : type.isNumeric = true)
    (h : v.convertFor type = .ok w) :
    w.number? = some (n : ℚ) ↔ type.isIntegral = true ∨ Double.FitsDouble n := by
  obtain ⟨w', hw', hbecomes⟩ := convertFor_whole hv htype
  obtain rfl : w = w' := Except.ok.inj (h.symm.trans hw')
  rcases hbecomes with ⟨hintegral, hwhole⟩ | ⟨hfloating, rfl⟩
  · simp [hintegral, number?_of_whole? hwhole]
  · rw [hfloating, number?_double, Double.value?_ofInt_eq_iff (natAbs_le_of_whole? hv)]
    simp

/-- No whole number that a double holds is nearer than what a whole literal becomes. -/
theorem exists_number?_of_convertFor (hv : v.whole? = some n)
    (htype : type.isNumeric = true) (h : v.convertFor type = .ok w) :
    ∃ q, w.number? = some q ∧ ∀ m, Double.FitsDouble m → |q - n| ≤ |(m : ℚ) - n| := by
  obtain ⟨w', hw', hbecomes⟩ := convertFor_whole hv htype
  obtain rfl : w = w' := Except.ok.inj (h.symm.trans hw')
  rcases hbecomes with ⟨-, hwhole⟩ | ⟨-, rfl⟩
  · refine ⟨n, number?_of_whole? hwhole, fun m _ => ?_⟩
    rw [sub_self, abs_zero]
    exact abs_nonneg _
  · rw [number?_double]
    exact Double.exists_value?_ofInt (natAbs_le_of_whole? hv)

/-- **Whole literals keep their number where there is room for it.** Towards any type
of numbers a whole literal converts. What it becomes is its number exactly if the
type is integral or the number has at most 53 binary digits before the zeros at its
end, as all numbers of 32 bits have and all up to `2 ^ 53`. Otherwise it is the
nearest of the numbers that have so few. So two literals of different numbers that
are both kept are different among the fields of the type as well. -/
theorem convertFor_keeps_number (hv : v.whole? = some n) (htype : type.isNumeric = true) :
    (v.type = .integer ∨ n.natAbs ≤ 2 ^ 53 → Double.FitsDouble n) ∧
    ∃ w, v.convertFor type = .ok w ∧
      (w.number? = some (n : ℚ) ↔ type.isIntegral = true ∨ Double.FitsDouble n) ∧
      (∃ q, w.number? = some q ∧ ∀ m, Double.FitsDouble m → |q - n| ≤ |(m : ℚ) - n|) ∧
      ∀ v' n' w', whole? v' = some n' → v'.convertFor type = .ok w' → n ≠ n' →
        type.isIntegral = true ∨ Double.FitsDouble n ∧ Double.FitsDouble n' →
        (w == w') = false := by
  obtain ⟨w, hw, -⟩ := convertFor_whole hv htype
  have hkept := number?_of_convertFor_iff hv htype hw
  refine ⟨fitsDouble_of_small hv, w, hw, hkept, exists_number?_of_convertFor hv htype hw, ?_⟩
  intro v' n' w' hv' hw' hne hroom
  rw [Bool.eq_false_iff]
  intro heq
  have hkept' := number?_of_convertFor_iff hv' htype hw'
  have hnumber : w.number? = some (n : ℚ) := hkept.mpr (hroom.imp id And.left)
  have hnumber' : w'.number? = some (n' : ℚ) := hkept'.mpr (hroom.imp id And.right)
  have hsame := number?_eq_of_beq heq
  rw [hnumber, hnumber', Option.some_inj, Int.cast_inj] at hsame
  exact hne hsame

/-- Two even numbers beyond `2 ^ 53`, which lie next to each other among doubles. -/
theorem convertFor_keeps_number_even :
    ∃ w w', convertFor (.bigint 9007199254740994) .float = .ok w ∧
      convertFor (.bigint 9007199254740996) .float = .ok w' ∧
      w.number? = some 9007199254740994 ∧ (w == w') = false := by
  have hv : whole? (.bigint 9007199254740994) = some 9007199254740994 := by rfl
  have hv' : whole? (.bigint 9007199254740996) = some 9007199254740996 := by rfl
  have htype : ColumnType.float.isNumeric = true := rfl
  have hroom : Double.FitsDouble 9007199254740994 := ⟨4503599627370497, 1, by decide, by decide⟩
  have hroom' : Double.FitsDouble 9007199254740996 := ⟨2251799813685249, 2, by decide, by decide⟩
  obtain ⟨-, w, hw, hkept, -, hdifferent⟩ := convertFor_keeps_number hv htype
  refine ⟨w, _, hw, rfl, by exact_mod_cast hkept.mpr (.inr hroom), ?_⟩
  exact hdifferent _ _ _ hv' rfl (by decide) (.inr ⟨hroom, hroom'⟩)

/-- **An odd number beyond `2 ^ 53` becomes another one.** Among the fields of a
floating type its literal is equal to that of the even number before it. -/
theorem convertFor_merges_numbers :
    ∃ w, convertFor (.bigint 9007199254740993) .double = .ok w ∧
      convertFor (.bigint 9007199254740992) .double = .ok w ∧ (w == w) = true ∧
      w.number? = some 9007199254740992 := by
  have hroom : Double.FitsDouble 9007199254740992 := ⟨1, 53, by decide, by decide⟩
  have hsame : Double.ofInt 9007199254740993 = Double.ofInt 9007199254740992 := by
    decide +kernel
  have hself : Literal.double (.ofInt 9007199254740992) ≠ .double .nan := by
    simpa using Double.ofInt_ne_nan _
  refine ⟨.double (.ofInt 9007199254740992), ?_, rfl, beq_self_iff.mpr hself, ?_⟩
  · rw [← hsame]
    rfl
  · rw [number?_double]
    exact_mod_cast (Double.value?_ofInt_eq_iff (by decide)).mpr hroom

end Literal

end QueryBind
