import QueryBind.Proofs.Binding.Locality
import QueryBind.Proofs.Binding.Mirroring

/-!
# Filters bound again

Binding a filter converts the literals that face fields. Put what they became in
their places and bind again: nothing is left to convert. A conversion may lead from
one rule to another, from a string to a date or from 32 bits to 64, but what any of
them ends in is kept by all, and it compares with the field, so that no check of
types refuses what a conversion has let through.
-/

namespace QueryBind

open Sql

/-! ## Literals converted twice -/

namespace Literal

/-- What a literal becomes for a type, it stays for that type. -/
theorem convertFor_convertFor {v w : Literal} {type : ColumnType}
    (h : v.convertFor type = .ok w) : w.convertFor type = .ok w := by
  have hkept := h
  unfold convertFor at h
  split at h
  · cases h
    rfl
  · split at h
    · next hdate =>
        cases h
        obtain ⟨day, rfl⟩ := exists_date_of_ofDateText? hdate
        rfl
    · cases h
  -- An integer that has become wider is as wide as it gets.
  iterate 5
    · cases h
      rfl
  · split at h
    · cases h
      exact hkept
    · cases h

end Literal

/-! ## Literals put in place -/

namespace Sql

/-- The operand with the literal that it was bound to in place of its own. -/
def Operand.withLiteral : Operand → FilterOperand → Operand
  | .literal _, .literal w => .literal w
  | o, _ => o

/-- The condition with the literals of its unit in place of its own. -/
def Condition.withLiterals (c : Condition) (u : FilterUnit) : Condition :=
  ⟨c.left.withLiteral u.left, c.comparison, c.right.withLiteral u.right⟩

/-- None of the two sides is the literal that differs from itself. -/
def Condition.NaNFree (c : Condition) : Prop :=
  c.left ≠ .literal (.double .nan) ∧ c.right ≠ .literal (.double .nan)

end Sql

/-- The conditions of a filter with the literals that it compares in place of
their own. -/
def Filter.restate (f : Filter) (conditions : List Condition) : List Condition :=
  conditions.zipWith Condition.withLiterals f.units

/-- The same field, or a literal again. -/
inductive FilterOperand.Kept : FilterOperand → FilterOperand → Prop where
  | field {r} : Kept (.field r) (.field r)
  | literal {v w} : Kept (.literal v) (.literal w)

theorem FilterOperand.Kept.refl (o : FilterOperand) : o.Kept o := by
  cases o with
  | field r => exact .field
  | literal v => exact .literal

namespace Sql.Comparison.Keeps

variable {comparison : Comparison} {left right left' right' : FilterOperand}

theorem left_kept (h : comparison.Keeps left right left' right') : left.Kept left' := by
  cases h with
  | pattern _ => exact .refl left
  | fieldLiteral _ _ => exact .field
  | literalField _ _ => exact .literal
  | fields _ => exact .field
  | literals _ => exact .literal

theorem right_kept (h : comparison.Keeps left right left' right') : right.Kept right' :=
  h.mirror.left_kept

/-- What the sides have become, they stay. -/
theorem keeps (h : comparison.Keeps left right left' right') :
    comparison.Keeps left' right' left' right' := by
  cases h with
  | pattern hpattern => exact .pattern hpattern
  | fieldLiteral hnot hw => exact .fieldLiteral hnot (Literal.convertFor_convertFor hw)
  | literalField hnot hw => exact .literalField hnot (Literal.convertFor_convertFor hw)
  | fields hnot => exact .fields hnot
  | literals hnot => exact .literals hnot

theorem left_ne_nan (h : comparison.Keeps left right left' right')
    (hleft : left ≠ .literal (.double .nan)) : left' ≠ .literal (.double .nan) := by
  cases h with
  | pattern _ => exact hleft
  | fieldLiteral _ _ => exact hleft
  | literalField _ hw =>
      have hw' := Literal.convertFor_ne_nan (fun hv => hleft (congrArg _ hv)) hw
      simpa using hw'
  | fields _ => exact hleft
  | literals _ => exact hleft

theorem right_ne_nan (h : comparison.Keeps left right left' right')
    (hright : right ≠ .literal (.double .nan)) : right' ≠ .literal (.double .nan) :=
  h.mirror.left_ne_nan hright

end Sql.Comparison.Keeps

namespace Scope

variable {s : Scope} {c : Condition} {u : FilterUnit} {conditions : List Condition}
  {filter : Filter}

theorem Means.withLiteral {o : Operand} {bound bound' : FilterOperand}
    (h : s.Means o bound) (hkept : bound.Kept bound') :
    s.Means (o.withLiteral bound') bound' := by
  cases hkept with
  | field =>
      cases h with
      | column hrefers => exact .column hrefers
  | literal =>
      cases h with
      | literal => exact .literal

theorem Means.ne_nan {o : Operand} {bound : FilterOperand} (h : s.Means o bound)
    (ho : o ≠ .literal (.double .nan)) : bound ≠ .literal (.double .nan) := by
  cases h with
  | column _ => simp
  | literal => simpa using ho

theorem StandsFor.withLiterals (h : s.StandsFor c u) : s.StandsFor (c.withLiterals u) u := by
  obtain ⟨hcomparison, left, right, hleft, hright, hkeeps⟩ := h
  exact ⟨hcomparison, u.left, u.right, hleft.withLiteral hkeeps.left_kept,
    hright.withLiteral hkeeps.right_kept, hkeeps.keeps⟩

theorem StandsFor.ne_nan (h : s.StandsFor c u) (hc : c.NaNFree) :
    u.left ≠ .literal (.double .nan) ∧ u.right ≠ .literal (.double .nan) := by
  obtain ⟨-, left, right, hleft, hright, hkeeps⟩ := h
  exact ⟨hkeeps.left_ne_nan (hleft.ne_nan hc.1), hkeeps.right_ne_nan (hright.ne_nan hc.2)⟩

/-! ## Conditions and lists bound again -/

theorem bindCondition_withLiterals (h : s.bindCondition c = .ok u) :
    s.bindCondition (c.withLiterals u) = .ok u := by
  obtain ⟨hstands, hcheck⟩ := bindCondition_eq_ok_iff_standsFor.mp h
  exact bindCondition_eq_ok_iff_standsFor.mpr ⟨hstands.withLiterals, hcheck⟩

theorem bindConditions_restate (h : s.bindConditions conditions = .ok filter) :
    s.bindConditions (filter.restate conditions) = .ok filter := by
  rw [bindConditions_eq_ok_iff] at h ⊢
  rw [Filter.restate]
  generalize filter.units = units at h ⊢
  induction h with
  | nil => exact .nil
  | cons hc _ ih => exact .cons (bindCondition_withLiterals hc) ih

theorem beq_self_of_bindConditions (h : s.bindConditions conditions = .ok filter)
    (hconditions : ∀ c ∈ conditions, c.NaNFree) : (filter == filter) = true := by
  apply Filter.NaNFree.beq_self
  intro u hu
  obtain ⟨c, hc, hbound⟩ := exists_of_forall₂_right (bindConditions_eq_ok_iff.mp h) hu
  have hstands := (bindCondition_eq_ok_iff_standsFor.mp hbound).1
  exact hstands.ne_nan (hconditions c hc)

/-- What a literal that faces a field was converted to passes the check of types on
either side of it. -/
theorem checkTypes_of_convertFor {comparison : Comparison} {r : FieldRef} {v w : Literal}
    (hnot : comparison.isPatternMatch = false) (h : v.convertFor r.field.type = .ok w) :
    checkTypes ⟨.literal w, comparison, .field r⟩ = .ok () ∧
      checkTypes ⟨.field r, comparison, .literal w⟩ = .ok () := by
  have hcheck : checkTypes ⟨.literal w, comparison, .field r⟩ = .ok () := by
    refine checkTypes_eq_ok_iff.mpr ⟨fun hpattern => ?_, fun _ => ?_⟩
    · rw [hnot] at hpattern
      cases hpattern
    · exact Literal.isComparableWith_of_convertFor h
  exact ⟨hcheck, checkTypes_mirror hcheck⟩

/-- **Binding a filter is idempotent on its literals.** Take any WHERE list that
binds, and put in place of each literal the one that its unit compares. The list
binds to the same filter again, which equals itself unless a literal differs from
itself. For what a literal is converted to for a type is converted to itself and
compares with that type, and so, on either side of a field of the type, it passes
the check of types. -/
theorem bindConditions_idempotent (s : Scope) :
    (∀ conditions filter, s.bindConditions conditions = .ok filter →
      s.bindConditions (filter.restate conditions) = .ok filter ∧
      ((∀ c ∈ conditions, c.NaNFree) → (filter == filter) = true)) ∧
    (∀ (v w : Literal) type, v.convertFor type = .ok w →
      w.convertFor type = .ok w ∧ w.type.isComparableWith type = true) ∧
    ∀ (comparison : Comparison) (r : FieldRef) (v w : Literal),
      comparison.isPatternMatch = false → v.convertFor r.field.type = .ok w →
      checkTypes ⟨.literal w, comparison, .field r⟩ = .ok () ∧
        checkTypes ⟨.field r, comparison, .literal w⟩ = .ok () := by
  refine ⟨fun conditions filter h => ?_, fun v w type h => ?_, ?_⟩
  · exact ⟨bindConditions_restate h, beq_self_of_bindConditions h⟩
  · exact ⟨Literal.convertFor_convertFor h, Literal.isComparableWith_of_convertFor h⟩
  · intro comparison r v w hnot h
    exact checkTypes_of_convertFor hnot h

/-- A string becomes a date on the left, and an integer a double on the right. -/
theorem bindConditions_idempotent_converted :
    let t : Table := ⟨⟨"t", [⟨"d", .date, true⟩, ⟨"x", .float, true⟩]⟩,
      by decide, by decide, by decide, by decide⟩
    let s : Scope := ⟨"main", some t, [("t", t)]⟩
    let d : Operand := .column ⟨none, "d", .plain⟩
    let x : Operand := .column ⟨some "t", "x", .plain⟩
    ∃ filter, s.bindConditions [⟨.literal (.varchar "2024-02-29"), .lessThan, d⟩,
        ⟨x, .equal, .literal (.integer 3)⟩] = .ok filter ∧
      s.bindConditions [⟨.literal (.date 19782), .lessThan, d⟩,
        ⟨x, .equal, .literal (.double (.ofInt 3))⟩] = .ok filter ∧
      (filter == filter) = true := by
  intro t s d x
  let conditions : List Condition := [⟨.literal (.varchar "2024-02-29"), .lessThan, d⟩,
    ⟨x, .equal, .literal (.integer 3)⟩]
  let filter : Filter := ⟨[
    ⟨.literal (.date 19782), .lessThan, .field ⟨t, 1, by decide⟩⟩,
    ⟨.field ⟨t, 2, by decide⟩, .equal, .literal (.double (.ofInt 3))⟩]⟩
  have hbound : s.bindConditions conditions = .ok filter := by rfl
  have hplain : ∀ c ∈ conditions, c.NaNFree := by
    simp [conditions, Condition.NaNFree, d, x]
  obtain ⟨hagain, hself⟩ := (bindConditions_idempotent s).1 conditions filter hbound
  exact ⟨filter, hbound, hagain, hself hplain⟩

end Scope

end QueryBind
