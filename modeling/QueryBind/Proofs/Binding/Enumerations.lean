import QueryBind.Session
import QueryBind.Proofs.Binding.Projection

/-!
# The order of enumeration

The names of a FROM list are enumerated for one purpose: where a qualifier is none of
them, the name nearest to it is suggested, and of several that are equally near the
one that comes first. So the order of the enumeration shows in the suggestion of that
one error and in nothing else. Two bindings of the same SELECT, each with an order of
its own, differ in this at most; they are equal where the orders are.
-/

namespace QueryBind

open Sql Text

/-! ## Outcomes up to a suggestion -/

/-- Two outcomes for names that are enumerated in two orders: the same outcome, or twice
the error of a relation that is not among them, each time with the suggestion that is
nearest in the order. -/
inductive UpToSuggestion {α : Type} (names names' : List String) :
    Except Error α → Except Error α → Prop where
  | same {outcome} : UpToSuggestion names names' outcome outcome
  | notListed {relation} : relation ∉ names → relation ∉ names' →
      UpToSuggestion names names'
        (.error (.relationNotListed relation (nearest? relation names)))
        (.error (.relationNotListed relation (nearest? relation names')))

namespace UpToSuggestion

variable {α β : Type} {names names' : List String} {x x' : Except Error α}

/-- What comes after two such outcomes goes on from one value or not at all. -/
theorem bind {f f' : α → Except Error β} (h : UpToSuggestion names names' x x')
    (hf : ∀ a, UpToSuggestion names names' (f a) (f' a)) :
    UpToSuggestion names names' (x >>= f) (x' >>= f') := by
  cases h with
  | notListed hrelation hrelation' => exact .notListed hrelation hrelation'
  | same =>
      cases x with
      | ok a => exact hf a
      | error e => exact .same

theorem eq_ok_iff (h : UpToSuggestion names names' x x') {a : α} :
    x = .ok a ↔ x' = .ok a := by
  cases h with
  | same => exact Iff.rfl
  | notListed _ _ => simp

/-- Both fail with errors of one kind, or both give the same. -/
theorem error_or_ok (h : UpToSuggestion names names' x x') :
    (∃ e e', x = .error e ∧ x' = .error e' ∧ e.kind = e'.kind) ∨
      ∃ a, x = .ok a ∧ x' = .ok a := by
  cases h with
  | notListed _ _ => exact .inl ⟨_, _, rfl, rfl, rfl⟩
  | same =>
      cases x with
      | ok a => exact .inr ⟨a, rfl, rfl⟩
      | error e => exact .inl ⟨e, e, rfl, rfl, rfl⟩

theorem eq_of_eq (h : UpToSuggestion names names x x') : x = x' := by
  cases h <;> rfl

end UpToSuggestion

/-! ## Projections -/

section Entries

variable (entries : List (String × Table)) (keys keys' : Enumeration)

/-- Of the same entries, the relations whose names are enumerated in some order. -/
theorem Relations.tableOf_upToSuggestion (a : Attribute) :
    UpToSuggestion (keys.order (entries.map (·.1))) (keys'.order (entries.map (·.1)))
      (tableOf ⟨entries, keys⟩ a) (tableOf ⟨entries, keys'⟩ a) := by
  unfold tableOf
  cases a.qualifier? with
  | none => exact .same
  | some relation =>
      cases hfind : lastNamed? entries relation with
      | some t =>
          simp only [find?, hfind]
          exact .same
      | none =>
          have hnone : find? ⟨entries, keys⟩ relation = none := hfind
          have hnot : relation ∉ entries.map (·.1) := find?_eq_none_iff.mp hnone
          simp only [find?, hfind]
          exact .notListed (by rwa [keys.mem_order]) (by rwa [keys'.mem_order])

theorem resolveAttribute_upToSuggestion (index : Nat) (a : Attribute)
    (aggregation : Aggregation) :
    UpToSuggestion (keys.order (entries.map (·.1))) (keys'.order (entries.map (·.1)))
      (resolveAttribute ⟨entries, keys⟩ index a aggregation)
      (resolveAttribute ⟨entries, keys'⟩ index a aggregation) := by
  have htable := Relations.tableOf_upToSuggestion entries keys keys' a
  cases hblank : isBlank a.name with
  | true =>
      rw [resolveAttribute_blank hblank, resolveAttribute_blank hblank]
      exact .same
  | false =>
      cases hname : isWildcard a.name with
      | true =>
          cases hqualifier : a.qualifier?.all isWildcard with
          | true =>
              rw [resolveAttribute_allTables hblank hname hqualifier,
                resolveAttribute_allTables hblank hname hqualifier]
              exact .same
          | false =>
              rw [resolveAttribute_oneTable hblank hname hqualifier,
                resolveAttribute_oneTable hblank hname hqualifier]
              exact htable.bind fun _ => .same
      | false =>
          cases hqualifier : a.qualifier?.any isWildcard with
          | true =>
              rw [resolveAttribute_columnOfAll hblank hname hqualifier,
                resolveAttribute_columnOfAll hblank hname hqualifier]
              exact .same
          | false =>
              rw [resolveAttribute_column hblank hname hqualifier,
                resolveAttribute_column hblank hname hqualifier]
              exact htable.bind fun _ => .same

theorem Projection.visit_upToSuggestion (aggregated : Option Bool)
    (as : List (Attribute × Nat)) :
    UpToSuggestion (keys.order (entries.map (·.1))) (keys'.order (entries.map (·.1)))
      (visit ⟨entries, keys⟩ aggregated as) (visit ⟨entries, keys'⟩ aggregated as) := by
  induction as generalizing aggregated with
  | nil => exact .same
  | cons a as ih =>
      obtain ⟨a, index⟩ := a
      unfold visit
      refine .bind .same fun aggregation => ?_
      dsimp only
      split
      · exact .same
      · refine .bind ?_ fun _ => .bind (ih _) fun _ => .same
        exact resolveAttribute_upToSuggestion entries keys keys' index a aggregation

theorem Projection.resolve_upToSuggestion (order : ProjectionOrder)
    (as : List Attribute) :
    UpToSuggestion (keys.order (entries.map (·.1))) (keys'.order (entries.map (·.1)))
      (resolve ⟨entries, keys⟩ order as) (resolve ⟨entries, keys'⟩ order as) :=
  (visit_upToSuggestion entries keys keys' none _).bind fun _ => .same

end Entries

/-! ## SELECTs -/

theorem Binder.bindSelect_eq {b : Binder} {source : TableSource}
    (hsource : b.source? = some source) (s : Select) (keys : Enumeration) :
    b.bindSelect s keys = (do
      let relations ←
        Relations.resolve source b.settings.repeatedTables s.relations keys
      let projection ← Projection.resolve relations b.settings.projectionOrder s.attributes
      let filter ← b.conditions (Scope.ofRelations source relations) s.conditions
      .ok ⟨relations.tables, projection.fields, filter, projection.isAggregate⟩) := by
  rw [bindSelect, hsource]
  rfl

/-- A SELECT binds to the same in every order of enumeration, a suggestion apart. -/
theorem Binder.bindSelect_upToSuggestion (b : Binder) (s : Select)
    (keys keys' : Enumeration) :
    UpToSuggestion (keys.order s.relations) (keys'.order s.relations)
      (b.bindSelect s keys) (b.bindSelect s keys') := by
  cases hsource : b.source? with
  | none =>
      rw [bindSelect, bindSelect, hsource]
      exact .same
  | some source =>
      rw [bindSelect_eq hsource, bindSelect_eq hsource]
      cases hfrom : Relations.resolveFrom source b.settings.repeatedTables [] s.relations with
      | error e =>
          rw [Relations.resolve, Relations.resolve, hfrom]
          exact .same
      | ok entries =>
          have hresolve : ∀ keys, Relations.resolve source b.settings.repeatedTables
              s.relations keys = .ok ⟨entries, keys⟩ := by
            intro keys
            rw [Relations.resolve, hfrom]
            rfl
          have hnames : entries.map (·.1) = s.relations :=
            Relations.names_of_resolve (hresolve keys)
          rw [hresolve, hresolve, ok_bind, ok_bind, ← hnames]
          -- The conditions consult the entries, which are the same.
          exact (Projection.resolve_upToSuggestion entries keys keys' _ _).bind
            fun _ => .same

namespace Session

/-- So do a statement and a text, in whatever order the names of the FROM list are. -/
theorem run_upToSuggestion (s : Session) (st : Statement) (keys keys' : Enumeration) :
    ∃ names : List String, UpToSuggestion (keys.order names) (keys'.order names)
      (s.run st keys) (s.run st keys') := by
  cases st with
  | select select =>
      exact ⟨_, (s.binder.bindSelect_upToSuggestion select keys keys').bind fun _ => .same⟩
  | createTable definition => exact ⟨[], .same⟩
  | dropTable name => exact ⟨[], .same⟩

theorem execute_upToSuggestion (s : Session) (text : String) (keys keys' : Enumeration) :
    ∃ names : List String, UpToSuggestion (keys.order names) (keys'.order names)
      (s.execute text keys) (s.execute text keys') := by
  unfold execute
  split
  · exact ⟨[], .same⟩
  · next st _ => exact s.run_upToSuggestion st keys keys'

theorem bind_upToSuggestion (s : Session) (text : String) (keys keys' : Enumeration) :
    ∃ names : List String, UpToSuggestion (keys.order names) (keys'.order names)
      (s.bind text keys) (s.bind text keys') := by
  unfold bind
  split
  · exact ⟨[], .same⟩
  · next select _ => exact ⟨_, s.binder.bindSelect_upToSuggestion select keys keys'⟩
  · exact ⟨[], .same⟩

end Session

end QueryBind
