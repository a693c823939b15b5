import Mathlib
import QueryBind.Session
import QueryBind.Proofs.Schema.History

/-!
# The history of a session

A session is served requests of any kind, which change its catalog directly, by
a statement, by a script, or not at all. Whatever the requests, the changes that
were tried on the way form one chain of catalogs: each is tried on the catalog
that the one before it left. So the catalog at any moment follows the creations
of its definition and the changes that have succeeded since.
-/

namespace QueryBind

open Sql

/-! ## Attempts -/

/-- A change that was tried on a catalog, with what it came to. -/
structure Attempt where
  change : Change
  before : Catalog
  result : Except Error Catalog

def Attempt.succeeded (a : Attempt) : Bool := a.result.isOk

/-- The changes that succeeded, in order. -/
def successes (log : List Attempt) : List Change :=
  (log.filter (·.succeeded)).map (·.change)

/-- Attempts that lead from one catalog to another, each made on the catalog
that the one before it left. -/
inductive Linked : Catalog → List Attempt → Catalog → Prop where
  | nil {c} : Linked c [] c
  | cons {c ch log last} : Linked (c.after ch) log last →
      Linked c (⟨ch, c, c.change ch⟩ :: log) last

theorem Linked.append {c c' c'' : Catalog} {log log' : List Attempt}
    (h : Linked c log c') (h' : Linked c' log' c'') :
    Linked c (log ++ log') c'' := by
  induction h with
  | nil => exact h'
  | cons _ ih => exact .cons (ih h')

/-- Before an attempt the catalog is the one that the attempts so far lead to. -/
theorem Linked.split {c last : Catalog} {past future : List Attempt}
    {a : Attempt} (h : Linked c (past ++ a :: future) last) :
    Linked c past a.before ∧ a.result = a.before.change a.change := by
  induction past generalizing c with
  | nil =>
      cases h with
      | cons _ => exact ⟨.nil, rfl⟩
  | cons b past ih =>
      cases h with
      | cons h =>
          obtain ⟨hpast, hresult⟩ := ih h
          exact ⟨.cons hpast, hresult⟩

/-- The attempts that succeeded make the catalog on their own. -/
theorem Linked.replay {c last : Catalog} {log : List Attempt}
    (h : Linked c log last) : (successes log).foldlM Catalog.change c = .ok last := by
  induction h with
  | nil => rfl
  | @cons c ch log last _ ih =>
      -- A change that fails is no success, and the catalog stays.
      rcases c.tried ch with ⟨e, herror, -, hsame⟩ | ⟨hok, -⟩
      · rw [hsame] at ih
        rw [herror]
        exact ih
      · rw [hok]
        show (ch :: successes log).foldlM Catalog.change c = .ok last
        rw [List.foldlM_cons, hok]
        exact ih

theorem Linked.follows {c last : Catalog} {past : List Change}
    {log : List Attempt} (h : Linked c log last) (hpast : c.Follows past) :
    last.Follows (past ++ successes log) :=
  hpast.replay h.replay

theorem Linked.name_eq {c last : Catalog} {log : List Attempt}
    (h : Linked c log last) : last.name = c.name := by
  induction h with
  | nil => rfl
  | cons _ ih => rw [ih, Catalog.name_after]

/-- A name that no successful change is about keeps its table. -/
theorem Linked.find?_eq {c last : Catalog} {log : List Attempt} {name : String}
    (h : Linked c log last) (hname : ∀ ch ∈ successes log, ch.name ≠ name) :
    last.find? name = c.find? name := by
  induction h with
  | nil => rfl
  | @cons c ch log last _ ih =>
      rcases c.tried ch with ⟨e, herror, -, hsame⟩ | ⟨hok, -⟩
      · rw [herror] at hname
        rw [ih hname, hsame]
      · rw [hok] at hname
        -- The change succeeded, so it is about another name.
        have hlater : ∀ ch' ∈ successes log, ch'.name ≠ name :=
          fun ch' hch' => hname ch' (List.mem_cons_of_mem _ hch')
        have hother : ¬ name = ch.name :=
          fun heq => hname ch List.mem_cons_self heq.symm
        rw [ih hlater, Catalog.find?_after, if_neg]
        rintro ⟨heq, -⟩
        exact hother heq

/-! ## Statements -/

/-- The change that a statement asks for. -/
def Sql.Statement.change? : Statement → Option Change
  | .select _ => none
  | .createTable d => some (.create d)
  | .dropTable name => some (.drop name)

namespace Session

/-- A statement that asks for a change tries it on the catalog of the session. -/
theorem run_change {s : Session} {st : Statement} {ch : Change}
    (h : st.change? = some ch) (keys : Enumeration) :
    ∃ outcome, s.run st keys =
      (s.catalog.change ch).map fun catalog => (outcome, { s with catalog }) := by
  cases st with
  | select select => cases h
  | createTable d =>
      cases h
      refine ⟨.created d.name, ?_⟩
      rw [run, Catalog.change]
      cases s.catalog.createTable d <;> rfl
  | dropTable name =>
      cases h
      refine ⟨.dropped name, ?_⟩
      rw [run, Catalog.change]
      cases s.catalog.dropTable name <;> rfl

/-- A statement that asks for none leaves the session alone. -/
theorem run_unchanged {s s' : Session} {st : Statement} {keys : Enumeration}
    {outcome : Outcome} (h : st.change? = none)
    (hrun : s.run st keys = .ok (outcome, s')) : s' = s := by
  cases st with
  | select select =>
      obtain ⟨_, -, hrun⟩ := bind_eq_ok_iff.mp hrun
      cases hrun
      rfl
  | createTable d => cases h
  | dropTable name => cases h

/-- What a statement that succeeds does to a session: nothing, or the change
that it asks for. -/
theorem run_cases {s s' : Session} {st : Statement} {keys : Enumeration}
    {outcome : Outcome} (h : s.run st keys = .ok (outcome, s')) :
    s' = s ∨ ∃ ch catalog, st.change? = some ch ∧
      s.catalog.ChangesTo ch catalog ∧ s' = { s with catalog } := by
  cases hchange : st.change? with
  | none => exact .inl (run_unchanged hchange h)
  | some ch =>
      obtain ⟨outcome', hrun⟩ := s.run_change hchange keys
      rw [hrun] at h
      obtain ⟨catalog, hcatalog, h⟩ := map_eq_ok_iff.mp h
      cases h
      exact .inr ⟨ch, catalog, rfl, Catalog.change_eq_ok_iff.mp hcatalog, rfl⟩

/-- The changes that are tried when statements run in turn. -/
def attempts (s : Session) (sts : List Statement) (keys : Enumerations) : List Attempt :=
  match sts with
  | [] => []
  | st :: rest =>
    match s.run st (keys 0) with
    | .error e => (st.change?.map (⟨·, s.catalog, .error e⟩)).toList
    | .ok (_, s') =>
      (st.change?.map (⟨·, s.catalog, .ok s'.catalog⟩)).toList ++
        s'.attempts rest keys.tail

theorem linked_attempts (s : Session) (sts : List Statement) (keys : Enumerations) :
    Linked s.catalog (s.attempts sts keys) (s.runAll sts keys).2.catalog := by
  induction sts generalizing s keys with
  | nil => exact .nil
  | cons st sts ih =>
      rw [attempts, runAll]
      cases hchange : st.change? with
      | none =>
          cases hrun : s.run st (keys 0) with
          | error e => exact .nil
          | ok result =>
              obtain ⟨outcome, s'⟩ := result
              rw [run_unchanged hchange hrun]
              exact ih s keys.tail
      | some ch =>
          -- The first attempt is on the catalog of the session, by `run_change`.
          obtain ⟨outcome, hrun⟩ := s.run_change hchange (keys 0)
          rcases s.catalog.tried ch with ⟨e, herror, -, hsame⟩ | ⟨hok, -⟩
          · have hlink : Linked s.catalog
                [⟨ch, s.catalog, s.catalog.change ch⟩] (s.catalog.after ch) :=
              .cons .nil
            rw [hsame, herror] at hlink
            rw [hrun, herror]
            exact hlink
          · have hlink := Linked.cons
              (ih { s with catalog := s.catalog.after ch } keys.tail)
            rw [hok] at hlink
            rw [hrun, hok]
            exact hlink

/-- When every change that is tried fails, the session is what it was. -/
theorem runAll_unchanged {s : Session} {sts : List Statement} {keys : Enumerations}
    (h : ∀ a ∈ s.attempts sts keys, a.succeeded = false) : (s.runAll sts keys).2 = s := by
  induction sts generalizing s keys with
  | nil => rfl
  | cons st sts ih =>
      rw [attempts] at h
      rw [runAll]
      cases hrun : s.run st (keys 0) with
      | error e => rfl
      | ok result =>
          obtain ⟨outcome, s'⟩ := result
          rw [hrun] at h
          cases hchange : st.change? with
          | none =>
              rw [run_unchanged hchange hrun] at h ⊢
              rw [hchange] at h
              exact ih h
          | some ch =>
              rw [hchange] at h
              have hfailed := h _ List.mem_cons_self
              cases hfailed

/-! ## Requests -/

end Session

/-- What a session may be asked for: a change of its catalog, to execute a
statement or a script, to bind a SELECT, or to read the catalog. With a text come the
enumerations of the maps that are made for it. -/
inductive Request where
  | create (d : TableDefinition)
  | drop (name : String)
  | execute (text : String) (keys : Enumeration := .listed)
  | executeScript (text : String) (keys : Enumerations := .listed)
  | bind (text : String) (keys : Enumeration := .listed)
  | read

/-- The statements that a request runs. -/
def Request.statements : Request → List Statement
  | create d => [.createTable d]
  | drop name => [.dropTable name]
  | execute text _ => ((Statement.ofText text).map fun st => [st]).toOption.getD []
  | executeScript text _ => (Statement.ofScript text).toOption.getD []
  | bind _ _ => []
  | read => []

/-- The enumerations that these statements are given. -/
def Request.keys : Request → Enumerations
  | create _ => .listed
  | drop _ => .listed
  | execute _ keys => fun _ => keys
  | executeScript _ keys => keys
  | bind _ keys => fun _ => keys
  | read => .listed

namespace Session

/-- The session after a request. -/
def serve (s : Session) : Request → Session
  | .create d => { s with catalog := (s.catalog.createTable d).toOption.getD s.catalog }
  | .drop name => { s with catalog := (s.catalog.dropTable name).toOption.getD s.catalog }
  | .execute text keys => ((s.execute text keys).map (·.2)).toOption.getD s
  | .executeScript text keys => (s.executeScript text keys).2
  | .bind _ _ => s
  | .read => s

/-- The session after requests in turn. -/
def serveAll (s : Session) (requests : List Request) : Session :=
  requests.foldl serve s

/-- All changes that are tried on the way. -/
def log (s : Session) : List Request → List Attempt
  | [] => []
  | r :: rest => s.attempts r.statements r.keys ++ (s.serve r).log rest

theorem runAll_single (s : Session) (st : Statement) (keys : Enumerations) :
    (s.runAll [st] keys).2 = ((s.run st (keys 0)).map (·.2)).toOption.getD s := by
  rw [runAll]
  cases s.run st (keys 0) <;> rfl

/-- By whatever route, a request does what its statements do. -/
theorem serve_eq_runAll (s : Session) (r : Request) :
    s.serve r = (s.runAll r.statements r.keys).2 := by
  cases r with
  | create d =>
      rw [Request.statements, runAll_single, serve, run]
      cases s.catalog.createTable d <;> rfl
  | drop name =>
      rw [Request.statements, runAll_single, serve, run]
      cases s.catalog.dropTable name <;> rfl
  | execute text keys =>
      rw [serve, execute, Request.statements]
      cases Statement.ofText text with
      | error e => rfl
      | ok st => exact (s.runAll_single st fun _ => keys).symm
  | executeScript text keys =>
      rw [serve, executeScript, Request.statements]
      cases Statement.ofScript text <;> rfl
  | bind text keys => rfl
  | read => rfl

theorem linked_log (s : Session) (requests : List Request) :
    Linked s.catalog (s.log requests) (s.serveAll requests).catalog := by
  induction requests generalizing s with
  | nil => exact .nil
  | cons r requests ih =>
      have hfirst := s.linked_attempts r.statements r.keys
      rw [← serve_eq_runAll] at hfirst
      exact hfirst.append (ih (s.serve r))

/-! ## What a session holds -/

/-- **A session keeps its tables by name.** Start from any definition that makes
a catalog and serve any requests. The changes tried on the way are one chain
from the first catalog to the last, so one that fails leaves the next one the
catalog it found. Before each attempt the catalog follows the creations of the
definition and the changes that have succeeded since, and so does the last
catalog: of each name it holds the table of the last creation, unless a drop
came after it. An attempt succeeds exactly when the catalog admits it. A request
none of whose changes succeeds leaves the session as it was, and changes on
different names commute. -/
theorem session_follows_past {d : CatalogDefinition} {c : Catalog}
    (h : Catalog.ofDefinition d = .ok c) (settings : Settings)
    (requests : List Request) :
    let first : Session := { catalog := c, settings }
    let log := first.log requests
    let last := (first.serveAll requests).catalog
    let created := d.tables.map Change.create
    Linked c log last ∧
    (∀ past a future, log = past ++ a :: future →
      a.before.Follows (created ++ successes past) ∧
      (a.succeeded = true ↔ a.change.Admissible a.before)) ∧
    last.Follows (created ++ successes log) ∧
    last.version = 1 + d.tables.length + (successes log).length ∧
    (∀ (s : Session) (r : Request),
      (∀ a ∈ s.attempts r.statements r.keys, a.succeeded = false) → s.serve r = s) ∧
    (∀ (c : Catalog) (a b : Change), a.name ≠ b.name →
      (c.after a).after b = (c.after b).after a ∧
      (c.after a).fault? b = c.fault? b) := by
  intro first log last created
  have hlinked : Linked c log last := first.linked_log requests
  have hfirst : c.Follows created := Catalog.follows_ofDefinition h
  have hlast : last.Follows (created ++ successes log) := hlinked.follows hfirst
  refine ⟨hlinked, ?_, hlast, ?_, ?_, ?_⟩
  · intro past a future hlog
    rw [hlog] at hlinked
    obtain ⟨hpast, hresult⟩ := hlinked.split
    refine ⟨hpast.follows hfirst, ?_⟩
    rw [Attempt.succeeded, hresult]
    exact Catalog.isOk_change_iff
  · rw [hlast.version_eq, List.length_append, List.length_map, Nat.add_assoc]
  · intro s r hfailed
    rw [serve_eq_runAll]
    exact runAll_unchanged hfailed
  · intro c a b hname
    exact ⟨Catalog.after_comm hname, Catalog.fault?_after hname⟩

/-- A creation of a table that is there, a script that drops it and fails when it
drops it once more, the creation of another one, and the drop of none. -/
theorem session_follows_drop_and_creation :
    let t : TableDefinition := ⟨"t", [⟨"a", .integer, true⟩]⟩
    let u : TableDefinition := ⟨"u", [⟨"b", .varchar, false⟩]⟩
    let requests := [.create t, .executeScript "DROP TABLE t; DROP TABLE t",
      .create u, .execute "DROP TABLE v", .read]
    ∃ c, Catalog.ofDefinition ⟨"main", [t]⟩ = .ok c ∧
      successes (log { catalog := c } requests) = [.drop "t", .create u] ∧
      (serveAll { catalog := c } requests).catalog.version = 4 ∧
      (serveAll { catalog := c } requests).catalog.contains "t" = false ∧
      (serveAll { catalog := c } requests).catalog.contains "u" = true := by
  intro t u requests
  have ht : t.IsValid := ⟨by decide, by decide, by decide, by decide⟩
  let c : Catalog := ⟨"main", [⟨t, ht⟩], 2, List.pairwise_singleton _ _⟩
  have hc : Catalog.ofDefinition ⟨"main", [t]⟩ = .ok c := by cbv
  have hlog : successes (log { catalog := c } requests) =
      [.drop "t", .create u] := by cbv
  obtain ⟨-, -, hlast, hversion, -, -⟩ := session_follows_past hc {} requests
  rw [hlog] at hlast hversion
  refine ⟨c, hc, hlog, hversion, ?_, ?_⟩
  · rw [← Bool.not_eq_true, hlast.contains_iff]
    rintro ⟨d, hd⟩
    cases hd
  · rw [hlast.contains_iff]
    exact ⟨u, rfl⟩

end Session

end QueryBind
