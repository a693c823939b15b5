import QueryBind.Proofs.Binding.Enumerations
import QueryBind.Proofs.Sql.Joining

/-!
# Scripts run in sequence

A script of joined texts against the texts themselves, executed one after
another. The script is read as a whole before anything runs, but nothing is
lost by that: it comes to what the texts come to in turn, and where a text
fails, the session is the one that the texts before it made. The enumerations
that the texts are given need not be those of the script, since what succeeds
does not depend on them; only the error of a text that fails may.
-/

namespace QueryBind

open Sql

/-- Texts executed in turn, all with success: what they came to, and the
session after the last. -/
inductive Executes :
    Session → Enumerations → List String → List Outcome → Session → Prop where
  | nil {s keys} : Executes s keys [] [] s
  | cons {s s' last keys text texts outcome outcomes} :
      s.execute text (keys 0) = .ok (outcome, s') →
      Executes s' keys.tail texts outcomes last →
      Executes s keys (text :: texts) (outcome :: outcomes) last

/-- The enumerations that the texts are given do not show in what they come to. -/
theorem Executes.congr {s last : Session} {keys : Enumerations} {texts : List String}
    {outcomes : List Outcome} (h : Executes s keys texts outcomes last)
    (keys' : Enumerations) : Executes s keys' texts outcomes last := by
  induction h generalizing keys' with
  | nil => exact .nil
  | @cons s s' last keys text texts outcome outcomes hrun _ ih =>
      obtain ⟨names, hsame⟩ := s.execute_upToSuggestion text (keys 0) (keys' 0)
      exact .cons (hsame.eq_ok_iff.mp hrun) (ih keys'.tail)

/-- However texts fare, either all of them execute or there is a first one that
fails. -/
theorem executes_or_fails (s : Session) (keys : Enumerations) (texts : List String) :
    (∃ outcomes last, Executes s keys texts outcomes last) ∨
      ∃ before text after outcomes s' e, texts = before ++ text :: after ∧
        Executes s keys before outcomes s' ∧
        s'.execute text (keys before.length) = .error e := by
  induction texts generalizing s keys with
  | nil => exact .inl ⟨[], s, .nil⟩
  | cons text texts ih =>
      cases hrun : s.execute text (keys 0) with
      | error e => exact .inr ⟨[], text, texts, [], s, e, rfl, .nil, hrun⟩
      | ok result =>
          obtain ⟨outcome, s'⟩ := result
          rcases ih s' keys.tail with ⟨outcomes, last, h⟩ |
            ⟨before, stopped, after, outcomes, s'', e, rfl, h, he⟩
          · exact .inl ⟨outcome :: outcomes, last, .cons hrun h⟩
          · exact .inr ⟨text :: before, stopped, after, outcome :: outcomes,
              s'', e, rfl, .cons hrun h, he⟩

namespace Session

theorem execute_eq_run {s : Session} {text : String} {st : Statement}
    {keys : Enumeration} (h : Statement.ofText text = .ok st) :
    s.execute text keys = s.run st keys := by
  rw [execute, h]

theorem runAll_cons {s s' : Session} {st : Statement} {keys : Enumerations}
    {outcome : Outcome} (sts : List Statement)
    (h : s.run st (keys 0) = .ok (outcome, s')) :
    s.runAll (st :: sts) keys =
      ((s'.runAll sts keys.tail).1.map (outcome :: ·), (s'.runAll sts keys.tail).2) := by
  rw [runAll, h]

/-- A statement that fails is the last one that is run. -/
theorem runAll_cons_error {s : Session} {st : Statement} {keys : Enumerations}
    {e : Error} (sts : List Statement) (h : s.run st (keys 0) = .error e) :
    s.runAll (st :: sts) keys = (.error e, s) := by
  rw [runAll, h]

theorem exists_statements {texts : List String}
    (h : ∀ text ∈ texts, ∃ st, Statement.ofText text = .ok st) :
    ∃ sts, ReadAs texts sts := by
  induction texts with
  | nil => exact ⟨[], .nil⟩
  | cons text texts ih =>
      rw [List.forall_mem_cons] at h
      obtain ⟨⟨st, hst⟩, hrest⟩ := h
      obtain ⟨sts, hsts⟩ := ih hrest
      exact ⟨st :: sts, .cons hst hsts⟩

/-- Statements whose texts executed may be run first; the run goes on from the
session that the texts made. -/
theorem runAll_append {s s' : Session} {keys : Enumerations} {texts : List String}
    {outcomes : List Outcome} {sts : List Statement} (rest : List Statement)
    (hread : ReadAs texts sts) (h : Executes s keys texts outcomes s') :
    let later := s'.runAll rest fun i => keys (texts.length + i)
    s.runAll (sts ++ rest) keys = (later.1.map (outcomes ++ ·), later.2) := by
  intro later
  induction h generalizing sts with
  | @nil s keys =>
      cases hread
      have hkeys : (fun i => keys (([] : List String).length + i)) = keys := by
        funext i
        rw [List.length_nil, Nat.zero_add]
      show s.runAll rest keys = _
      simp only [later, hkeys]
      cases hrun : (s.runAll rest keys).1 <;> simp [Except.map, ← hrun]
  | @cons s s₁ last keys text texts outcome outcomes hrun _ ih =>
      cases hread with
      | @cons _ st _ sts hst hsts =>
          have hkeys : (fun i => keys.tail (texts.length + i)) =
              fun i => keys ((text :: texts).length + i) := by
            funext i
            rw [Enumerations.tail, List.length_cons, Nat.add_right_comm]
          rw [execute_eq_run hst] at hrun
          rw [List.cons_append, runAll_cons _ hrun, ih hsts, hkeys]
          show (Except.map _ (Except.map _ later.1), later.2) = _
          cases later.1 <;> rfl

/-- **A script is the sequence of its statements.** Texts of one statement each
are joined by semicolons on lines of their own. If they all execute in turn, the
script comes to the same outcomes and the same session, whatever enumerations they
are given on either side; if one of them is the first to fail, the script gives the
error that this text gives with the enumeration that the script has for it, and the
session that the texts before it made, whatever stands after it. A script that is
not read changes nothing. -/
theorem executeScript_eq_sequence (s : Session) (keys keys' : Enumerations) :
    (∀ texts : List String,
      (∀ text ∈ texts, ∃ st, Statement.ofText text = .ok st) →
      (∀ outcomes last, Executes s keys texts outcomes last →
        s.executeScript ("\n;\n".intercalate texts) keys' = (.ok outcomes, last)) ∧
      (∀ before text after outcomes s' e, texts = before ++ text :: after →
        Executes s keys before outcomes s' →
        s'.execute text (keys' before.length) = .error e →
        s.executeScript ("\n;\n".intercalate texts) keys' = (.error e, s'))) ∧
    (∀ script e, Statement.ofScript script = .error e →
      s.executeScript script keys' = (.error (.parse e), s)) := by
  refine ⟨fun texts hread => ⟨?_, ?_⟩, fun script e he => ?_⟩
  · intro outcomes last h
    obtain ⟨sts, hsts⟩ := exists_statements hread
    have hrun := runAll_append [] hsts (h.congr keys')
    rw [executeScript, ofScript_intercalate hsts]
    simpa [runAll, Except.map] using hrun
  · rintro before text after outcomes s' e rfl h he
    rw [List.forall_mem_append, List.forall_mem_cons] at hread
    obtain ⟨hbefore, ⟨st, hst⟩, hafter⟩ := hread
    obtain ⟨sts₁, hsts₁⟩ := exists_statements hbefore
    obtain ⟨sts₂, hsts₂⟩ := exists_statements hafter
    rw [executeScript, ofScript_intercalate (List.rel_append hsts₁ (.cons hst hsts₂))]
    rw [execute_eq_run hst] at he
    show s.runAll (sts₁ ++ st :: sts₂) keys' = (.error e, s')
    rw [runAll_append _ hsts₁ (h.congr keys'), runAll_cons_error _ he]
    rfl
  · rw [executeScript, he]

/-- A text may end in a comment or in a semicolon of its own, and a table may be
dropped once only. -/
theorem executeScript_create_drop_drop :
    let texts := ["CREATE TABLE t (a INT) -- new", "DROP TABLE t;", "DROP TABLE t"]
    let first : Session := { catalog := .empty }
    let last : Session := { catalog := ⟨"main", [], 3, List.Pairwise.nil⟩ }
    (∀ text ∈ texts, ∃ st, Statement.ofText text = .ok st) ∧
    Executes first .listed (texts.take 2) [.created "t", .dropped "t"] last ∧
    first.executeScript ("\n;\n".intercalate (texts.take 2)) =
      (.ok [.created "t", .dropped "t"], last) ∧
    first.executeScript ("\n;\n".intercalate texts) =
      (.error (.tableMissing "t" "main"), last) := by
  intro texts first last
  have hcreate : Statement.ofText "CREATE TABLE t (a INT) -- new" =
      .ok (.createTable ⟨"t", [⟨"a", .integer, true⟩]⟩) := by cbv
  have hdrop : Statement.ofText "DROP TABLE t;" = .ok (.dropTable "t") := by cbv
  have hagain : Statement.ofText "DROP TABLE t" = .ok (.dropTable "t") := by cbv
  have hread : ∀ text ∈ texts, ∃ st, Statement.ofText text = .ok st := by
    simp [texts, hcreate, hdrop, hagain]
  have hrun : Executes first .listed (texts.take 2) [.created "t", .dropped "t"] last := by
    exact .cons (execute_eq_run hcreate) (.cons (execute_eq_run hdrop) .nil)
  have hfail : last.execute "DROP TABLE t" = .error (.tableMissing "t" "main") :=
    execute_eq_run hagain
  refine ⟨hread, hrun, ?_, ?_⟩
  · exact ((executeScript_eq_sequence first .listed .listed).1 (texts.take 2)
      fun text h => hread text (List.mem_of_mem_take h)).1 _ _ hrun
  · exact ((executeScript_eq_sequence first .listed .listed).1 texts hread).2 _ _ [] _ _ _
      rfl hrun hfail

end Session

end QueryBind
