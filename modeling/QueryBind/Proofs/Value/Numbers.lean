import QueryBind.Proofs.Results
import QueryBind.Proofs.Sql.Division
import QueryBind.Value.Conversion

/-!
# Every number equals itself

A double equals itself unless it is the one that is no number, and with it a
literal. Rounding never makes that double; it can only be read from the word for
it. What a text calls a numeral begins with a digit and so is never this word,
with a minus before it or without, and converting a literal only rounds. So no
statement that was read from a text compares with a double that differs from
itself.
-/

namespace QueryBind

open Sql

/-! ## Doubles -/

namespace Number

namespace Double

theorem nearest_ne_nan (negative : Bool) (n d : Nat) :
    nearest negative n d ≠ .nan := by
  unfold nearest
  dsimp only
  split <;> simp

theorem ofInt_ne_nan (n : Int) : ofInt n ≠ .nan := nearest_ne_nan _ _ _

theorem ofDecimal_ne_nan (negative : Bool) (coefficient : Nat) (exponent : Int) :
    ofDecimal negative coefficient exponent ≠ .nan := by
  unfold ofDecimal
  dsimp only
  split
  · simp
  split
  · simp
  · exact nearest_ne_nan _ _ _

theorem beq_self_iff {x : Double} : (x == x) = true ↔ x ≠ .nan := by
  cases x with
  | nan => simp [BEq.beq]
  | infinite negative => simp [BEq.beq]
  | finite negative units => simp [BEq.beq]

end Double

/-! ## Reading doubles -/

/-- A text that begins with a digit is none of the words for doubles. -/
theorem ne_word_of_isDigit {c : Char} {word : String} (cs : List Char)
    (hc : c.isDigit = true) (hword : ∀ d ∈ word.toList.head?, d.isDigit = false) :
    String.ofList ((c :: cs).map Char.toLower) ≠ word := by
  rintro rfl
  have hlower : c.toLower = c := by
    have hbounds : 48 ≤ c.val.toNat ∧ c.val.toNat ≤ 57 := by
      simpa [Char.isDigit, UInt32.le_iff_toNat_le] using hc
    have hletter : 'A'.val.toNat = 65 := rfl
    rw [Char.toLower, dif_neg]
    rw [ge_iff_le, UInt32.le_iff_toNat_le]
    omega
  have hhead := hword c.toLower (by simp)
  rw [hlower, hc] at hhead
  cases hhead

/-- Only a word stands for no number, so a text with a digit behind its sign
stands for another double. -/
theorem double?_ne_nan {text : String} {negative : Bool} {c : Char}
    {cs : List Char} {x : Double}
    (hsplit : splitSign text.toList = (negative, c :: cs))
    (hc : c.isDigit = true) (h : double? text = some x) : x ≠ .nan := by
  unfold double? at h
  rw [hsplit] at h
  dsimp only at h
  split at h
  · cases h
    simp
  have hword : String.ofList ((c :: cs).map Char.toLower) ≠ "nan" :=
    ne_word_of_isDigit cs hc (by simp)
  rw [if_neg hword] at h
  obtain ⟨_, -, rfl⟩ := Option.map_eq_some_iff.mp h
  exact Double.ofDecimal_ne_nan _ _ _

theorem splitSign_of_isDigit {c : Char} (cs : List Char) (hc : c.isDigit = true) :
    splitSign (c :: cs) = (false, c :: cs) := by
  unfold splitSign
  split
  · next heq =>
      cases heq
      exact absurd hc (by decide)
  · next heq =>
      cases heq
      exact absurd hc (by decide)
  · rfl

end Number

open Number

/-! ## Literals -/

namespace Literal

theorem beq_self_iff {v : Literal} : (v == v) = true ↔ v ≠ .double .nan := by
  cases v with
  | double x =>
      rw [ne_eq, double.injEq]
      exact Double.beq_self_iff
  | null => simp [BEq.beq, instBEqLiteral.beq]
  | boolean b => simp [BEq.beq, instBEqLiteral.beq]
  | integer n => simp [BEq.beq, instBEqLiteral.beq]
  | bigint n => simp [BEq.beq, instBEqLiteral.beq]
  | varchar s => simp [BEq.beq, instBEqLiteral.beq]
  | date day => simp [BEq.beq, instBEqLiteral.beq]

theorem ofNumeral?_ne_nan {text : String} {negative : Bool} {c : Char}
    {cs : List Char} {v : Literal}
    (hsplit : splitSign text.toList = (negative, c :: cs))
    (hc : c.isDigit = true) (h : ofNumeral? text = some v) :
    v ≠ .double .nan := by
  unfold ofNumeral? at h
  split at h
  · cases h
    simp
  split at h
  · cases h
    simp
  obtain ⟨x, hx, rfl⟩ := Option.map_eq_some_iff.mp h
  simpa using double?_ne_nan hsplit hc hx

theorem convertFor_ne_nan {v w : Literal} {target : ColumnType}
    (hv : v ≠ .double .nan) (h : v.convertFor target = .ok w) :
    w ≠ .double .nan := by
  unfold convertFor at h
  split at h
  · cases h
    simp
  · split at h
    · next s _ d hdate =>
        cases h
        obtain ⟨_, -, rfl⟩ := Option.map_eq_some_iff.mp hdate
        simp
    · cases h
  · cases h
    simp
  -- Towards the floating types a whole number is rounded.
  any_goals
    cases h
    simpa using Double.ofInt_ne_nan _
  split at h
  · cases h
    exact hv
  · cases h

end Literal

/-! ## Operands -/

namespace Sql

/-- The numerals among some tokens look like numerals. -/
def NumeralsFormed (ts : List Token) : Prop :=
  ∀ t ∈ ts, ∀ digits, t.kind = .numeral digits → IsNumeral digits.toList

theorem Divides.numeralsFormed {cs : List Char} {ls : List Lexeme}
    (h : Divides cs ls) : NumeralsFormed (tokensOf ls) := by
  intro t ht digits hkind
  obtain ⟨l, hl, rfl⟩ := List.mem_map.mp ht
  have hformed := h.isFormed l hl
  cases l with
  | numeral ds =>
      cases hkind
      rw [String.toList_ofList]
      exact hformed
  | word letters =>
      simp only [Lexeme.token, Lexeme.kind] at hkind
      split at hkind <;> cases hkind
  | string content => cases hkind
  | name content => cases hkind
  | mark m spelling => cases hkind

theorem OperandOf.ne_nan {ts : List Token} {o : Operand} (h : OperandOf ts o)
    (hformed : NumeralsFormed ts) : o ≠ .literal (.double .nan) := by
  cases h with
  | @numeral t digits v hkind hv =>
      obtain ⟨c, cs, heq, hc⟩ := (hformed t (by simp) _ hkind).exists_digit
      have hsplit : splitSign digits.toList = (Bool.false, c :: cs) := by
        rw [heq, splitSign_of_isDigit cs hc]
      simpa using Literal.ofNumeral?_ne_nan hsplit hc hv
  | @negative minus t digits v _ hkind hv =>
      obtain ⟨c, cs, heq, hc⟩ := (hformed t (by simp) _ hkind).exists_digit
      have hsplit : splitSign ("-" ++ digits).toList = (Bool.true, c :: cs) := by
        rw [String.toList_append, heq]
        rfl
      simpa using Literal.ofNumeral?_ne_nan hsplit hc hv
  | string _ => simp
  | true _ => simp
  | false _ => simp
  | null _ => simp
  | column _ => simp

theorem SelectOf.operands_ne_nan {ts : List Token} {select : Select}
    (h : SelectOf ts select) (hformed : NumeralsFormed ts) :
    ∀ c ∈ select.conditions,
      c.left ≠ .literal (.double .nan) ∧ c.right ≠ .literal (.double .nan) := by
  rintro c hc
  obtain ⟨-, -, -, -, hwhere⟩ := h
  cases hwhere with
  | none => cases hc
  | some _ hconditions =>
      obtain ⟨us, hus, hcondition⟩ := hconditions.exists_of_mem hc
      obtain ⟨hleft, -, hright⟩ := hcondition
      have hus' : NumeralsFormed _ := fun t ht =>
        hformed t (by
          have := hus ht
          simp [this])
      exact ⟨hleft.ne_nan fun t ht => hus' t (by simp [ht]),
        hright.ne_nan fun t ht => hus' t (by simp [ht])⟩

/-- No text writes a literal that differs from itself. -/
theorem operands_ne_nan_of_ofText {text : String} {select : Select}
    (h : Statement.ofText text = .ok (.select select)) :
    ∀ c ∈ select.conditions,
      c.left ≠ .literal (.double .nan) ∧ c.right ≠ .literal (.double .nan) := by
  obtain ⟨ls, body, rest, hdivides, hsplit, hbody, -⟩ := ofText_eq_ok_iff.mp h
  obtain ⟨hselect⟩ := hbody
  refine hselect.operands_ne_nan fun t ht => ?_
  apply hdivides.numeralsFormed t
  rw [hsplit]
  exact List.mem_append_left _ ht

end Sql

end QueryBind
