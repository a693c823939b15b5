import QueryBind.Binding.Aggregation
import QueryBind.Proofs.Sql.Phrases
import QueryBind.Proofs.Sql.Shapes

/-!
# Calls in a SELECT list

An entry of a SELECT list is flattened to one attribute with a shape, and the shape
alone is judged when the entry is bound. The shape knows of the entry what is needed
for that: a call among the direct arguments, the first one if there are several, else
how many arguments there are. Whatever is inside an argument that is a call, down to
any depth, makes no difference.

What counts as a call is decided by the first two tokens of an entry: a word for a
function is a name like others unless a parenthesis opens behind it.
-/

namespace QueryBind

open Sql

/-! ## What begins a call -/

theorem Sql.HeadOf.unique {ts : List Token} {f g : AggregateFunction}
    (h : HeadOf ts f) (h' : HeadOf ts g) : f = g := by
  obtain ⟨hkind, hword, -⟩ := h
  obtain ⟨hkind', hword', -⟩ := h'
  rw [hkind] at hkind'
  cases hkind'
  have hsome := aggregate?_eq_some_iff.mpr hword
  rw [aggregate?_eq_some_iff.mpr hword'] at hsome
  exact (Option.some.inj hsome).symm

theorem Sql.HeadOf.take_two {head : List Token} {f : AggregateFunction}
    (h : HeadOf head f) (rest : List Token) : (head ++ rest).take 2 = head := by
  cases h
  rfl

/-- An item is a call of a function exactly if its tokens begin as one: with the word for
the function and an opening parenthesis. -/
theorem Sql.ItemOf.headOf_iff {ts : List Token} {item : Item} (h : ItemOf ts item)
    (f : AggregateFunction) :
    HeadOf (ts.take 2) f ↔ ∃ arguments, item = .call f arguments := by
  cases h with
  | column href =>
      constructor
      · intro hhead
        cases href with
        | alone hpart =>
            obtain ⟨t, rfl, -⟩ := hpart.exists_token
            cases hhead
        | qualified hpart hdot _ =>
            obtain ⟨t, rfl, -⟩ := hpart.exists_token
            obtain ⟨-, -, hopen⟩ := hhead
            rw [hdot] at hopen
            cases hopen
      · rintro ⟨_, ⟨⟩⟩
  | emptyCall hhead _ =>
      rw [hhead.take_two]
      constructor
      · intro hf
        rw [hf.unique hhead]
        exact ⟨[], rfl⟩
      · rintro ⟨_, hitem⟩
        cases hitem
        exact hhead
  | call hhead _ _ =>
      rw [hhead.take_two]
      constructor
      · intro hf
        rw [hf.unique hhead]
        exact ⟨_, rfl⟩
      · rintro ⟨_, hitem⟩
        cases hitem
        exact hhead

/-! ## Verdicts -/

/-- The kind of the error that a shape deserves, if it deserves one. -/
def Sql.AggregateShape.fault? : AggregateShape → Option ErrorKind
  | .plain | .call _ => none
  | .nested _ _ => some .nestedAggregation
  | .multiple _ _ => some .aggregationUnmatched
  | .malformed _ => some .invalidArgument

namespace Sql.Attribute

/-- An attribute is refused with the error that its shape deserves. -/
theorem shape_fault? (a : Attribute) :
    a.shape.fault? = match a.aggregation with
      | .ok _ => none
      | .error e => some e.kind := by
  unfold aggregation
  cases a.shape with
  | plain => rfl
  | call f =>
      by_cases hrows : f = .count ∧ isWildcard a.name = true
      · simp [AggregateShape.fault?, hrows]
      · simp [AggregateShape.fault?, hrows]
  | nested outer inner => rfl
  | multiple f count => rfl
  | malformed reason => rfl

theorem exists_error_iff {a : Attribute} {k : ErrorKind} :
    (∃ e, a.aggregation = .error e ∧ e.kind = k) ↔ a.shape.fault? = some k := by
  rw [shape_fault?]
  cases a.aggregation <;> simp

theorem exists_ok_iff {a : Attribute} :
    (∃ aggregation, a.aggregation = .ok aggregation) ↔ a.shape.fault? = none := by
  rw [shape_fault?]
  cases a.aggregation <;> simp

end Sql.Attribute

namespace Sql.Item

/-- The attribute of an item is judged by the direct arguments of the item: a call among
them is nested, several of them are too many, none is too few, and a column stands
alone or as the one argument of a call. -/
structure Judged (item : Item) (a : Attribute) : Prop where
  nested_iff : (∃ e, a.aggregation = .error e ∧ e.kind = .nestedAggregation) ↔
    ∃ f arguments, item = .call f arguments ∧ ∃ x ∈ arguments, x.IsCall
  unmatched_iff : (∃ e, a.aggregation = .error e ∧ e.kind = .aggregationUnmatched) ↔
    ∃ f arguments, item = .call f arguments ∧ 2 ≤ arguments.length ∧
      ∀ x ∈ arguments, ¬ x.IsCall
  invalid_iff : (∃ e, a.aggregation = .error e ∧ e.kind = .invalidArgument) ↔
    ∃ f, item = .call f []
  accepted_iff : (∃ aggregation, a.aggregation = .ok aggregation) ↔
    (∃ relation name, item = .column relation name) ∨
      ∃ f relation name, item = .call f [.column relation name]
  nested : ∀ f before inner others after,
    item = .call f (before ++ .call inner others :: after) → (∀ x ∈ before, ¬ x.IsCall) →
    a.shape = .nested f inner ∧ a.aggregation = .error (.nestedAggregation a)
  unmatched : ∀ f arguments, item = .call f arguments → 2 ≤ arguments.length →
    (∀ x ∈ arguments, ¬ x.IsCall) → a.shape = .multiple f arguments.length ∧
      a.aggregation = .error (.manyArguments f arguments.length)
  column : ∀ relation name, item = .column relation name →
    a = ⟨relation, name, .plain⟩ ∧ a.aggregation = .ok .none
  single : ∀ f relation name, item = .call f [.column relation name] →
    a = ⟨relation, name, .call f⟩ ∧ a.aggregation =
      .ok (if f = .count ∧ name = wildcard then .countAll else .function f)

theorem fault?_eq_iff {item : Item} {fault : Option ErrorKind} :
    item.toAttribute.shape.fault? = fault ↔ ∃ s, item.Shaped s ∧ s.fault? = fault := by
  simp [shaped_iff]

theorem judged_toAttribute (item : Item) : item.Judged item.toAttribute where
  nested_iff := by
    rw [Attribute.exists_error_iff, fault?_eq_iff]
    constructor
    · rintro ⟨s, hs, hfault⟩
      cases hs with
      | nested hbefore =>
          exact ⟨_, _, rfl, exists_isCall_iff.mpr ⟨_, _, _, _, rfl, hbefore⟩⟩
      | column | empty | single | multiple => cases hfault
    · rintro ⟨f, arguments, rfl, hcall⟩
      obtain ⟨before, inner, others, after, rfl, hbefore⟩ := exists_isCall_iff.mp hcall
      exact ⟨_, .nested hbefore, rfl⟩
  unmatched_iff := by
    rw [Attribute.exists_error_iff, fault?_eq_iff]
    constructor
    · rintro ⟨s, hs, hfault⟩
      cases hs with
      | multiple hlength hnone => exact ⟨_, _, rfl, hlength, hnone⟩
      | column | empty | single | nested => cases hfault
    · rintro ⟨f, arguments, rfl, hlength, hnone⟩
      exact ⟨_, .multiple hlength hnone, rfl⟩
  invalid_iff := by
    rw [Attribute.exists_error_iff, fault?_eq_iff]
    constructor
    · rintro ⟨s, hs, hfault⟩
      cases hs with
      | empty => exact ⟨_, rfl⟩
      | column | single | multiple | nested => cases hfault
    · rintro ⟨f, rfl⟩
      exact ⟨_, .empty, rfl⟩
  accepted_iff := by
    rw [Attribute.exists_ok_iff, fault?_eq_iff]
    constructor
    · rintro ⟨s, hs, hfault⟩
      cases hs with
      | column => exact .inl ⟨_, _, rfl⟩
      | single => exact .inr ⟨_, _, _, rfl⟩
      | empty | multiple | nested => cases hfault
    · rintro (⟨relation, name, rfl⟩ | ⟨f, relation, name, rfl⟩)
      · exact ⟨_, .column, rfl⟩
      · exact ⟨_, .single, rfl⟩
  nested := by
    rintro f before inner others after rfl hbefore
    have hshape : (call f (before ++ call inner others :: after)).toAttribute.shape =
        .nested f inner := (Shaped.nested hbefore).toAttribute_shape_eq
    refine ⟨hshape, ?_⟩
    simp only [Attribute.aggregation, hshape]
  unmatched := by
    rintro f arguments rfl hlength hnone
    have hshape : (call f arguments).toAttribute.shape = .multiple f arguments.length :=
      (Shaped.multiple hlength hnone).toAttribute_shape_eq
    refine ⟨hshape, ?_⟩
    simp only [Attribute.aggregation, hshape]
  column := by
    rintro relation name rfl
    exact ⟨rfl, rfl⟩
  single := by
    rintro f relation name rfl
    refine ⟨rfl, ?_⟩
    simp only [Attribute.aggregation, toAttribute, callShape, isWildcard]
    by_cases hrows : f = .count ∧ name = wildcard
    · simp [function?, hrows]
    · simp [function?, hrows]

end Sql.Item

/-- **Calls are judged by their direct arguments.** Whatever entry of a SELECT list is
read off the front of some tokens, its attribute is judged by the arguments that the
entry itself has, at any depth of calls inside them. What is called an argument and
what a call is the tokens tell: the entry is a phrase of the grammar, and a phrase
is a call exactly if a word for a function and an opening parenthesis begin it. -/
theorem Sql.readItem_judged {stop : Token} {ts : List Token} {taken : Taken Token Item ts}
    (h : readItem stop ts = .ok taken) :
    (∃ body, ts = body ++ taken.rest ∧ ItemOf body taken.value) ∧
      (∀ us x f, ItemOf us x →
        (HeadOf (us.take 2) f ↔ ∃ arguments, x = .call f arguments)) ∧
      taken.value.Judged taken.value.toAttribute := by
  refine ⟨readItem_sound stop (takes_of_ok h), ?_, Item.judged_toAttribute _⟩
  intro us x f hx
  exact hx.headOf_iff f

/-- `AVG(a, MAX(COUNT()))`: the call that is empty stands inside the one that is nested. -/
theorem Sql.readItem_judged_nested :
    ∃ (stop : Token) (ts : List Token) (taken : Taken Token Item ts),
      ts.map (·.text) =
        ["AVG", "(", "a", ",", "MAX", "(", "COUNT", "(", ")", ")", ")", "FROM"] ∧
      readItem stop ts = .ok taken ∧
      taken.value.toAttribute = ⟨none, "a", .nested .avg .max⟩ ∧
      taken.value.Judged taken.value.toAttribute := by
  let word (k : Keyword) (text : String) : Token := ⟨.keyword k, text, .start⟩
  let mark (m : Mark) (text : String) : Token := ⟨.mark m, text, .start⟩
  let stop := word .FROM "FROM"
  let ts : List Token := [word .AVG "AVG", mark .leftParen "(", ⟨.identifier "a", "a", .start⟩,
    mark .comma ",", word .MAX "MAX", mark .leftParen "(", word .COUNT "COUNT",
    mark .leftParen "(", mark .rightParen ")", mark .rightParen ")", mark .rightParen ")", stop]
  let taken : Taken Token Item ts :=
    ⟨.call .avg [.column none "a", .call .max [.call .count []]], [stop], by decide⟩
  have hread : readItem stop ts = .ok taken := by cbv
  exact ⟨stop, ts, taken, rfl, hread, rfl, (readItem_judged hread).2.2⟩

end QueryBind
