import QueryBind.Binding.Summary
import QueryBind.Proofs.Binding.Enumerations
import QueryBind.Proofs.Binding.Locality
import QueryBind.Proofs.Session.History

/-!
# Binding again

A SELECT that is bound twice in a session gives the same result as long as no
change in between succeeds on a table of its FROM list. Changes of other tables
and changes that fail leave the tables of the list as they are, and nothing else
is bound against. The names of the list may be enumerated in another order the
second time, which can only show in the text of an error.
-/

namespace QueryBind

open Sql

namespace Session

/-! ## Settings stay -/

theorem settings_run {s s' : Session} {st : Statement} {keys : Enumeration}
    {outcome : Outcome} (h : s.run st keys = .ok (outcome, s')) :
    s'.settings = s.settings := by
  rcases run_cases h with rfl | ⟨_, _, -, -, rfl⟩
  · rfl
  · rfl

theorem settings_runAll (s : Session) (sts : List Statement) (keys : Enumerations) :
    (s.runAll sts keys).2.settings = s.settings := by
  induction sts generalizing s keys with
  | nil => rfl
  | cons st sts ih =>
      rw [runAll]
      cases hrun : s.run st (keys 0) with
      | error e => rfl
      | ok result =>
          obtain ⟨outcome, s'⟩ := result
          exact (ih s' keys.tail).trans (settings_run hrun)

theorem settings_serveAll (s : Session) (requests : List Request) :
    (s.serveAll requests).settings = s.settings := by
  induction requests generalizing s with
  | nil => rfl
  | cons r requests ih =>
      show ((s.serve r).serveAll requests).settings = s.settings
      rw [ih, serve_eq_runAll, settings_runAll]

/-! ## Binding twice -/

/-- Requests that change no table of a text's FROM list do not show. -/
theorem bind_serveAll {s : Session} {text : String} {requests : List Request}
    (h : ∀ select, Statement.ofText text = .ok (.select select) →
      ∀ ch ∈ successes (s.log requests), ch.name ∉ select.relations)
    (keys : Enumeration) :
    (s.serveAll requests).bind text keys = s.bind text keys := by
  have hlinked := s.linked_log requests
  refine bind_congr keys (s.settings_serveAll requests) fun select hselect => ?_
  refine ⟨hlinked.name_eq, fun name hname => ?_⟩
  refine hlinked.find?_eq fun ch hch heq => ?_
  exact h select hselect ch hch (heq ▸ hname)

/-- **Binding is repeatable.** Bind a text twice in a session, each time with an
enumeration of its own, and serve any requests in between, none of which changes a
table of the text's FROM list. Then both times it fails with an error of the same
kind, or both times it gives statements that compare equal in whole, in their
filters and in their fields and have the same summary. What it gives compares with
no double that differs from itself, and so equals itself. -/
theorem bind_repeatable (s : Session) (text : String) (requests : List Request)
    (keys keys' : Enumeration)
    (h : ∀ select, Statement.ofText text = .ok (.select select) →
      ∀ ch ∈ successes (s.log requests), ch.name ∉ select.relations) :
    let later := s.serveAll requests
    (∃ e e', s.bind text keys = .error e ∧ later.bind text keys' = .error e' ∧
      e.kind = e'.kind) ∨
    (∃ b b', s.bind text keys = .ok b ∧ later.bind text keys' = .ok b' ∧
      (b == b') = true ∧ (b.filter == b'.filter) = true ∧
      (b.fields == b'.fields) = true ∧ b.summary = b'.summary ∧
      b.filter.NaNFree ∧ (b == b) = true) := by
  intro later
  have hsame : later.bind text keys' = s.bind text keys' := bind_serveAll h keys'
  rw [hsame]
  obtain ⟨names, horders⟩ := s.bind_upToSuggestion text keys keys'
  rcases horders.error_or_ok with hfails | ⟨b, hbind, hagain⟩
  · exact .inl hfails
  · have hfilter : b.filter.NaNFree := filter_nanFree hbind
    have hfields : (b.fields == b.fields) = true :=
      beq_self_of_forall fun f _ => f.beq_self
    exact .inr ⟨b, b, hbind, hagain, BoundSelect.beq_self hfilter, hfilter.beq_self,
      hfields, rfl, hfilter, BoundSelect.beq_self hfilter⟩

/-- Between the two bindings another table comes and goes, and the bound one is
created in vain. -/
theorem bind_repeatable_other_table :
    let t : TableDefinition := ⟨"t", [⟨"a", .bigint, true⟩]⟩
    let u : TableDefinition := ⟨"u", [⟨"a", .date, true⟩]⟩
    let requests := [.create u, .create t, .execute "DROP TABLE u"]
    let text := "SELECT a FROM t WHERE a < 2"
    ∃ (c : Catalog) (b b' : BoundSelect), Catalog.ofDefinition ⟨"main", [t]⟩ = .ok c ∧
      successes (log { catalog := c } requests) = [.create u, .drop "u"] ∧
      bind { catalog := c } text = .ok b ∧ b.filter.text = "t.a < 2" ∧
      (serveAll { catalog := c } requests).bind text = .ok b' ∧ (b == b') = true := by
  intro t u requests text
  have ht : t.IsValid := ⟨by decide, by decide, by decide, by decide⟩
  let c : Catalog := ⟨"main", [⟨t, ht⟩], 2, List.pairwise_singleton _ _⟩
  have hc : Catalog.ofDefinition ⟨"main", [t]⟩ = .ok c := by cbv
  have hlog : successes (log { catalog := c } requests) = [.create u, .drop "u"] := by
    cbv
  have htext : Statement.ofText text = .ok (.select ⟨["t"], [⟨none, "a", .plain⟩],
      [⟨.column ⟨none, "a", .plain⟩, .lessThan, .literal (.integer 2)⟩]⟩) := by cbv
  have hfilter : (bind { catalog := c } text).map (·.filter.text) = .ok "t.a < 2" := by
    rw [bind_of_ofText htext]
    rfl
  obtain ⟨b, hb, hshown⟩ := map_eq_ok_iff.mp hfilter
  have hother : ∀ select, Statement.ofText text = .ok (.select select) →
      ∀ ch ∈ successes (log { catalog := c } requests), ch.name ∉ select.relations := by
    intro select hselect ch hch
    rw [htext] at hselect
    cases hselect
    rw [hlog] at hch
    revert ch
    decide
  rcases bind_repeatable { catalog := c } text requests .listed .listed hother with
    ⟨e, -, herror, -⟩ | ⟨b₁, b', hb₁, hb', heq, -⟩
  · rw [hb] at herror
    cases herror
  · rw [hb] at hb₁
    cases hb₁
    exact ⟨c, b, b', hc, hlog, hb, hshown, hb', heq⟩

end Session

end QueryBind
