import QueryBind.Binding.Filter
import QueryBind.Proofs.Binding.Lookup

/-!
# What filters consist of

The units of a filter stand for the conditions of a WHERE list one by one. A
column becomes the field of its name in a table of the scope; a literal stays
what it is unless it faces a field, towards whose type it is converted.
-/

namespace QueryBind

open Sql

/-! ## Columns -/

namespace Scope

theorem mem_tables_of_tableOf {source : TableSource} {relations : Relations}
    {a : Attribute} {t : Table}
    (h : (ofRelations source relations).tableOf a = .ok t) :
    t ∈ relations.tables := by
  unfold tableOf at h
  split at h
  · split at h
    · next hfind =>
        cases h
        exact Relations.mem_tables_of_find? hfind
    · cases h
  · split at h
    · next hdefault =>
        cases h
        exact Relations.mem_tables_of_default? hdefault
    · cases h

/-- A column is plain, no wildcard on either side of its dot, and the field of
its name in its table. -/
theorem bindAttribute_eq_ok_iff {s : Scope} {a : Attribute} {r : FieldRef} :
    s.bindAttribute a = .ok r ↔ a.shape.isPlain = true ∧
      isWildcard a.name = false ∧ a.qualifier?.any isWildcard = false ∧
      ∃ t, s.tableOf a = .ok t ∧ t.ref? a.name = some r := by
  unfold bindAttribute
  cases hshape : a.shape.isPlain with
  | false => simp
  | true =>
      cases hname : isWildcard a.name with
      | true => simp
      | false =>
          cases hqualifier : a.qualifier?.any isWildcard with
          | true => simp
          | false =>
              simp only [Bool.not_true, Bool.or_self, Bool.false_eq_true,
                if_false, true_and]
              constructor
              · intro h
                obtain ⟨t, ht, h⟩ := bind_eq_ok_iff.mp h
                refine ⟨t, ht, ?_⟩
                cases hr : t.ref? a.name with
                | some r' =>
                    rw [hr] at h
                    cases h
                    rfl
                | none =>
                    rw [hr] at h
                    cases h
              · rintro ⟨t, ht, hr⟩
                rw [ht, ok_bind, hr]
                rfl

end Scope

/-! ## Conditions -/

/-- What an operand becomes, over tables: a column the field of its name in one
of them, a literal itself or what it is converted to. -/
inductive OperandBinds (tables : List Table) : Operand → FilterOperand → Prop where
  | column {a r} : r.table ∈ tables → r.field.name = a.name →
      OperandBinds tables (.column a) (.field r)
  | literal {v} : OperandBinds tables (.literal v) (.literal v)
  | converted {v w type} : v.convertFor type = .ok w →
      OperandBinds tables (.literal v) (.literal w)

/-- What a condition becomes: its two sides, compared as before. -/
structure ConditionBinds (tables : List Table) (c : Condition)
    (u : FilterUnit) : Prop where
  left : OperandBinds tables c.left u.left
  comparison_eq : u.comparison = c.comparison
  right : OperandBinds tables c.right u.right

/-- The sides of a condition as they are compared. -/
def comparedSides (comparison : Comparison) (left right : FilterOperand) :
    Except Error (FilterOperand × FilterOperand) :=
  if comparison.isPatternMatch then .ok (left, right) else Scope.convertSides left right

namespace Scope

theorem bindCondition_eq (s : Scope) (c : Condition) :
    s.bindCondition c = (do
      let left ← s.bindOperand c.left
      let right ← s.bindOperand c.right
      let sides ← comparedSides c.comparison left right
      checkTypes ⟨sides.1, c.comparison, sides.2⟩
      .ok ⟨sides.1, c.comparison, sides.2⟩) := by
  unfold bindCondition comparedSides
  cases s.bindOperand c.left with
  | error e => rfl
  | ok left =>
      cases s.bindOperand c.right with
      | error e => rfl
      | ok right =>
          simp only [ok_bind]
          split <;> rfl

theorem bindCondition_eq_ok_iff {s : Scope} {c : Condition} {u : FilterUnit} :
    s.bindCondition c = .ok u ↔ ∃ left right,
      s.bindOperand c.left = .ok left ∧ s.bindOperand c.right = .ok right ∧
      comparedSides c.comparison left right = .ok (u.left, u.right) ∧
      u.comparison = c.comparison ∧ checkTypes u = .ok () := by
  rw [bindCondition_eq]
  constructor
  · intro h
    obtain ⟨left, hleft, h⟩ := bind_eq_ok_iff.mp h
    obtain ⟨right, hright, h⟩ := bind_eq_ok_iff.mp h
    obtain ⟨sides, hsides, h⟩ := bind_eq_ok_iff.mp h
    obtain ⟨_, hcheck, h⟩ := bind_eq_ok_iff.mp h
    cases h
    exact ⟨left, right, hleft, hright, hsides, rfl, hcheck⟩
  · rintro ⟨left, right, hleft, hright, hsides, hcomparison, hcheck⟩
    obtain ⟨ul, comparison, ur⟩ := u
    dsimp only at hsides hcomparison
    subst hcomparison
    rw [hleft, ok_bind, hright, ok_bind, hsides, ok_bind, hcheck]
    rfl

/-! ## What conditions bind to -/

/-- Operands before any conversion. -/
theorem operandBinds_of_bindOperand {source : TableSource} {relations : Relations}
    {o : Operand} {bound : FilterOperand}
    (h : (ofRelations source relations).bindOperand o = .ok bound) :
    OperandBinds relations.tables o bound := by
  cases o with
  | literal v =>
      cases h
      exact .literal
  | column a =>
      obtain ⟨r, hr, rfl⟩ := map_eq_ok_iff.mp h
      obtain ⟨-, -, -, t, ht, href⟩ := bindAttribute_eq_ok_iff.mp hr
      obtain ⟨rfl, -⟩ := Table.ref?_eq_some_iff.mp href
      exact .column (mem_tables_of_tableOf ht) (Table.field_name_of_ref? href)

theorem eq_literal_of_bindOperand {s : Scope} {o : Operand} {v : Literal}
    (h : s.bindOperand o = .ok (.literal v)) : o = .literal v := by
  cases o with
  | literal w =>
      cases h
      rfl
  | column a =>
      obtain ⟨r, -, hr⟩ := map_eq_ok_iff.mp h
      cases hr

/-- Comparing keeps fields as they are and converts a literal that faces one. -/
theorem operandBinds_comparedSides {source : TableSource} {relations : Relations}
    {o o' : Operand} {comparison : Comparison}
    {left right left' right' : FilterOperand}
    (hleft : (ofRelations source relations).bindOperand o = .ok left)
    (hright : (ofRelations source relations).bindOperand o' = .ok right)
    (h : comparedSides comparison left right = .ok (left', right')) :
    OperandBinds relations.tables o left' ∧
      OperandBinds relations.tables o' right' := by
  have hl := operandBinds_of_bindOperand hleft
  have hr := operandBinds_of_bindOperand hright
  unfold comparedSides at h
  split at h
  · cases h
    exact ⟨hl, hr⟩
  -- Only a literal that faces a field is converted, and it was written as it is.
  unfold convertSides at h
  split at h
  · obtain ⟨w, hw, h⟩ := map_eq_ok_iff.mp h
    cases h
    rw [eq_literal_of_bindOperand hright]
    exact ⟨hl, .converted hw⟩
  · obtain ⟨w, hw, h⟩ := map_eq_ok_iff.mp h
    cases h
    rw [eq_literal_of_bindOperand hleft]
    exact ⟨.converted hw, hr⟩
  · cases h
    exact ⟨hl, hr⟩

theorem conditionBinds_of_bindCondition {source : TableSource}
    {relations : Relations} {c : Condition} {u : FilterUnit}
    (h : (ofRelations source relations).bindCondition c = .ok u) :
    ConditionBinds relations.tables c u := by
  obtain ⟨left, right, hleft, hright, hsides, hcomparison, -⟩ :=
    bindCondition_eq_ok_iff.mp h
  obtain ⟨hl, hr⟩ := operandBinds_comparedSides hleft hright hsides
  exact ⟨hl, hcomparison, hr⟩

/-- A filter has one unit for each condition, in order. -/
theorem bindConditions_sound {source : TableSource} {relations : Relations}
    {conditions : List Condition} {filter : Filter}
    (h : (ofRelations source relations).bindConditions conditions = .ok filter) :
    List.Forall₂ (ConditionBinds relations.tables) conditions filter.units := by
  obtain ⟨units, hunits, rfl⟩ := map_eq_ok_iff.mp h
  exact (mapM_eq_ok_iff.mp hunits).imp fun _ _ => conditionBinds_of_bindCondition

end Scope

end QueryBind
