import QueryBind.Proofs.Binding.Typing

/-!
# Conditions with their sides exchanged

The binder takes the sides of a condition one after the other: the left operand is
resolved first, a literal on the left is converted by another rule than one on the
right, and LIKE asks for the type of the left side before that of the right. None of
this shows in what is accepted. A condition and the one with its sides exchanged
bind to units with their sides exchanged, or else both are refused; and once their
operands are resolved they are refused for one kind of reason.
-/

namespace QueryBind

open Sql

/-- The condition with its sides exchanged. The comparison stays the same one. -/
def Sql.Condition.mirror (c : Condition) : Condition := ⟨c.right, c.comparison, c.left⟩

/-- The unit with its sides exchanged. -/
def FilterUnit.mirror (u : FilterUnit) : FilterUnit := ⟨u.right, u.comparison, u.left⟩

@[simp] theorem Sql.Condition.mirror_mirror (c : Condition) : c.mirror.mirror = c := rfl

@[simp] theorem FilterUnit.mirror_mirror (u : FilterUnit) : u.mirror.mirror = u := rfl

/-! ## What is accepted -/

theorem Sql.Comparison.Keeps.mirror {comparison : Comparison}
    {left right left' right' : FilterOperand}
    (h : comparison.Keeps left right left' right') :
    comparison.Keeps right left right' left' := by
  cases h with
  | pattern hpattern => exact .pattern hpattern
  | fieldLiteral hnot hw => exact .literalField hnot hw
  | literalField hnot hw => exact .fieldLiteral hnot hw
  | fields hnot => exact .fields hnot
  | literals hnot => exact .literals hnot

namespace Scope

theorem StandsFor.mirror {s : Scope} {c : Condition} {u : FilterUnit}
    (h : s.StandsFor c u) : s.StandsFor c.mirror u.mirror := by
  obtain ⟨hcomparison, left, right, hleft, hright, hkeeps⟩ := h
  exact ⟨hcomparison, right, left, hright, hleft, hkeeps.mirror⟩

theorem checkTypes_mirror {u : FilterUnit} (h : checkTypes u = .ok ()) :
    checkTypes u.mirror = .ok () := by
  obtain ⟨htexts, hcomparable⟩ := checkTypes_eq_ok_iff.mp h
  refine checkTypes_eq_ok_iff.mpr ⟨fun hpattern => (htexts hpattern).symm, fun hnot => ?_⟩
  rw [ColumnType.isComparableWith_comm]
  exact hcomparable hnot

theorem bindCondition_mirror_of_ok {s : Scope} {c : Condition} {u : FilterUnit}
    (h : s.bindCondition c = .ok u) : s.bindCondition c.mirror = .ok u.mirror := by
  obtain ⟨hstands, hcheck⟩ := bindCondition_eq_ok_iff_standsFor.mp h
  exact bindCondition_eq_ok_iff_standsFor.mpr ⟨hstands.mirror, checkTypes_mirror hcheck⟩

/-! ## What is refused -/

/-- A literal that faces a field is converted or refused alike on either side. -/
theorem convertSides_swap (left right : FilterOperand) :
    convertSides right left = (convertSides left right).map Prod.swap := by
  cases left with
  | field r =>
      cases right with
      | field r' => rfl
      | literal v =>
          show (v.convertFor r.field.type).map _ = ((v.convertFor r.field.type).map _).map _
          cases v.convertFor r.field.type <;> rfl
  | literal v =>
      cases right with
      | field r =>
          show (v.convertFor r.field.type).map _ = ((v.convertFor r.field.type).map _).map _
          cases v.convertFor r.field.type <;> rfl
      | literal v' => rfl

theorem comparedSides_swap (comparison : Comparison) (left right : FilterOperand) :
    comparedSides comparison right left =
      (comparedSides comparison left right).map Prod.swap := by
  unfold comparedSides
  split
  · rfl
  · exact convertSides_swap left right

theorem kind_of_checkPattern {comparison : Comparison} {type : ColumnType} {e : Error}
    (h : checkPattern comparison type = .error e) : e.kind = .typeMismatch := by
  unfold checkPattern at h
  split at h
  · cases h
  · cases h
    rfl

/-- Whichever side the check of types finds at fault, it is a fault of types. -/
theorem kind_of_checkTypes {u : FilterUnit} {e : Error} (h : checkTypes u = .error e) :
    e.kind = .typeMismatch := by
  unfold checkTypes at h
  split at h
  · cases hleft : checkPattern u.comparison u.left.type with
    | error e' =>
        rw [hleft] at h
        cases h
        exact kind_of_checkPattern hleft
    | ok _ =>
        rw [hleft] at h
        exact kind_of_checkPattern h
  · split at h
    · cases h
    · cases h
      rfl

/-- Once its operands are resolved, a condition is converted and then checked. -/
theorem bindCondition_of_resolved {s : Scope} {c : Condition} {left right : FilterOperand}
    (hleft : s.bindOperand c.left = .ok left) (hright : s.bindOperand c.right = .ok right) :
    s.bindCondition c = (do
      let sides ← comparedSides c.comparison left right
      checkTypes ⟨sides.1, c.comparison, sides.2⟩
      .ok ⟨sides.1, c.comparison, sides.2⟩) := by
  rw [bindCondition_eq, hleft, ok_bind, hright, ok_bind]

theorem bindCondition_of_unconverted {s : Scope} {c : Condition}
    {left right : FilterOperand} {e : Error} (hleft : s.bindOperand c.left = .ok left)
    (hright : s.bindOperand c.right = .ok right)
    (hsides : comparedSides c.comparison left right = .error e) :
    s.bindCondition c = .error e := by
  rw [bindCondition_of_resolved hleft hright, hsides]
  rfl

theorem kind_of_bindCondition {s : Scope} {c : Condition} {left right : FilterOperand}
    {sides : FilterOperand × FilterOperand} {e : Error}
    (hleft : s.bindOperand c.left = .ok left) (hright : s.bindOperand c.right = .ok right)
    (hsides : comparedSides c.comparison left right = .ok sides)
    (h : s.bindCondition c = .error e) : e.kind = .typeMismatch := by
  rw [bindCondition_of_resolved hleft hright, hsides, ok_bind] at h
  cases hcheck : checkTypes ⟨sides.1, c.comparison, sides.2⟩ with
  | error e' =>
      rw [hcheck] at h
      cases h
      exact kind_of_checkTypes hcheck
  | ok _ =>
      rw [hcheck] at h
      cases h

theorem exists_error_mirror {s : Scope} {c : Condition} {e : Error}
    (h : s.bindCondition c = .error e) : ∃ e', s.bindCondition c.mirror = .error e' := by
  cases hmirror : s.bindCondition c.mirror with
  | error e' => exact ⟨e', rfl⟩
  | ok u =>
      rw [← c.mirror_mirror, bindCondition_mirror_of_ok hmirror] at h
      cases h

/-- **Conditions may be mirrored.** In any scope, a condition of any comparison binds
to a unit exactly if the condition with its sides exchanged binds to the unit with
its sides exchanged, literals converted and all. Where both operands resolve and the
condition is refused nevertheless, the other one is refused for the same kind of
reason. -/
theorem bindCondition_mirror (s : Scope) (c : Condition) :
    (∀ u, s.bindCondition c = .ok u ↔ s.bindCondition c.mirror = .ok u.mirror) ∧
    ∀ left right e, s.bindOperand c.left = .ok left → s.bindOperand c.right = .ok right →
      s.bindCondition c = .error e →
      ∃ e', s.bindCondition c.mirror = .error e' ∧ e'.kind = e.kind := by
  refine ⟨fun u => ⟨bindCondition_mirror_of_ok, bindCondition_mirror_of_ok⟩, ?_⟩
  intro left right e hleft hright h
  have hswap := comparedSides_swap c.comparison left right
  cases hsides : comparedSides c.comparison left right with
  | error e₀ =>
      -- The literal is the same on either side, and so is its error.
      rw [hsides] at hswap
      have he : s.bindCondition c = .error e₀ := bindCondition_of_unconverted hleft hright hsides
      rw [h] at he
      cases he
      exact ⟨e, bindCondition_of_unconverted hright hleft hswap, rfl⟩
  | ok sides =>
      rw [hsides] at hswap
      obtain ⟨e', h'⟩ := exists_error_mirror h
      have hkind : e.kind = .typeMismatch := kind_of_bindCondition hleft hright hsides h
      have hkind' : e'.kind = .typeMismatch :=
        kind_of_bindCondition (c := c.mirror) hright hleft hswap h'
      exact ⟨e', h', hkind'.trans hkind.symm⟩

/-- Neither side suits the pattern, and each order finds fault with another one. -/
theorem bindCondition_mirror_like :
    let t : Table := ⟨⟨"t", [⟨"d", .date, true⟩]⟩, by decide, by decide, by decide, by decide⟩
    let s : Scope := ⟨"main", some t, [("t", t)]⟩
    let c : Condition := ⟨.column ⟨none, "d", .plain⟩, .like, .literal (.integer 5)⟩
    s.bindCondition c = .error (.patternOperand .like .date) ∧
      s.bindCondition c.mirror = .error (.patternOperand .like .integer) ∧
      ∃ e', s.bindCondition c.mirror = .error e' ∧ e'.kind = .typeMismatch := by
  intro t s c
  have hrefused : s.bindCondition c = .error (.patternOperand .like .date) := by cbv
  obtain ⟨-, hmirror⟩ := bindCondition_mirror s c
  exact ⟨hrefused, by cbv,
    hmirror (.field ⟨t, 1, Nat.lt_add_one 1⟩) (.literal (.integer 5)) _ (by cbv) (by cbv)
      hrefused⟩

end Scope

end QueryBind
