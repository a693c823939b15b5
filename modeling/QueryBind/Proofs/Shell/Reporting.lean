import QueryBind.Proofs.Session.History
import QueryBind.Proofs.Shell.Gathering
import QueryBind.Shell.Program

/-!
# What the prompt reports

A script is executed to its end, or up to the first statement that is refused,
before anything of it is printed; then its outcomes are printed, or the error in
their stead. So every change of the catalog is reported by the line that made it,
in order, unless a later statement of the same script is refused: then the change
stays, and nothing is said of it.
-/

namespace QueryBind

open Sql Text

/-! ## Reports of a script -/

/-- The status of a statement that made a change. -/
def Change.status : Change → String
  | .create d => (Outcome.created d.name).status
  | .drop name => (Outcome.dropped name).status

theorem successes_append (log log' : List Attempt) :
    successes (log ++ log') = successes log ++ successes log' := by
  rw [successes, List.filter_append, List.map_append]
  rfl

/-- Where all of some statements succeed, the first does, and the others after it. -/
theorem Session.of_runAll_cons {s last : Session} {st : Statement}
    {sts : List Statement} {keys : Enumerations} {outcomes : List Outcome}
    (h : s.runAll (st :: sts) keys = (.ok outcomes, last)) :
    ∃ outcome s' rest, s.run st (keys 0) = .ok (outcome, s') ∧
      s'.runAll sts keys.tail = (.ok rest, last) ∧ outcome :: rest = outcomes := by
  rw [runAll] at h
  cases hrun : s.run st (keys 0) with
  | error e =>
      rw [hrun] at h
      cases h
  | ok result =>
      obtain ⟨outcome, s'⟩ := result
      rw [hrun] at h
      obtain ⟨houtcomes, hlast⟩ := Prod.mk.inj h
      obtain ⟨rest, hrest, houtcome⟩ := map_eq_ok_iff.mp houtcomes
      exact ⟨outcome, s', rest, rfl, Prod.ext hrest hlast, houtcome⟩

namespace Shell

/-- The line that reports a change. -/
def reportOf (ch : Change) : Printed := outLine ch.status

/-- What is printed of a statement that made a change is its report. -/
theorem printOutcome_of_change {s s' : Session} {st : Statement} {keys : Enumeration}
    {ch : Change} {outcome : Outcome} (format : OutputFormat)
    (hchange : st.change? = some ch) (hrun : s.run st keys = .ok (outcome, s')) :
    printOutcome format outcome = [reportOf ch] := by
  cases st with
  | select select => cases hchange
  | createTable d =>
      obtain ⟨catalog, -, h⟩ := bind_eq_ok_iff.mp hrun
      cases hchange
      cases h
      rfl
  | dropTable name =>
      obtain ⟨catalog, -, h⟩ := bind_eq_ok_iff.mp hrun
      cases hchange
      cases h
      rfl

/-- Statements that all succeed have their changes reported in order. -/
theorem reports_of_runAll {s last : Session} {sts : List Statement}
    {keys : Enumerations} {outcomes : List Outcome} (format : OutputFormat)
    (h : s.runAll sts keys = (.ok outcomes, last)) :
    ((successes (s.attempts sts keys)).map reportOf).Sublist
      (outcomes.flatMap (printOutcome format)) := by
  induction sts generalizing s keys outcomes with
  | nil => simp [Session.attempts, successes]
  | cons st sts ih =>
      obtain ⟨outcome, s', rest, hrun, hrest, rfl⟩ := Session.of_runAll_cons h
      rw [Session.attempts, hrun, successes_append, List.map_append, List.flatMap_cons]
      refine List.Sublist.append ?_ (ih hrest)
      cases hchange : st.change? with
      | none => exact List.nil_sublist _
      | some ch =>
          rw [printOutcome_of_change format hchange hrun]
          exact List.Sublist.refl _

/-- One statement that is refused has made no change. -/
theorem successes_of_single {s last : Session} {st : Statement} {keys : Enumerations}
    {e : Error} (h : s.runAll [st] keys = (.error e, last)) :
    successes (s.attempts [st] keys) = [] := by
  cases hrun : s.run st (keys 0) with
  | error e' =>
      rw [Session.attempts, hrun]
      cases st.change? <;> rfl
  | ok result =>
      obtain ⟨outcome, s'⟩ := result
      rw [Session.runAll, hrun] at h
      cases h

/-- The changes that a script makes in a session. -/
def changesOf (s : Session) (script : String) (keys : Enumerations) : List Change :=
  successes (s.attempts (Request.executeScript script).statements keys)

/-- A script that runs to its end has all its changes reported, and one that is
refused has none reported. -/
theorem reports_of_ran_iff (p : Prompt) (script : String) (keys : Enumerations) :
    ((changesOf p.session script keys).map reportOf).Sublist
        (p.ran script keys).printed ↔
      changesOf p.session script keys = [] ∨
        ∃ outcomes, (p.session.executeScript script keys).1 = .ok outcomes := by
  cases hresult : (p.session.executeScript script keys).1 with
  | ok outcomes =>
      have hreports : ((changesOf p.session script keys).map reportOf).Sublist
          (p.ran script keys).printed := by
        have hprinted : (p.ran script keys).printed =
            outcomes.flatMap (printOutcome p.format) := by
          rw [Prompt.ran, hresult]
        rw [hprinted, changesOf, Request.statements]
        unfold Session.executeScript at hresult
        split at hresult
        · cases hresult
        · next sts hsts =>
            rw [hsts]
            exact reports_of_runAll p.format (Prod.ext hresult rfl)
      simp [hreports]
  | error e =>
      have hprinted : (p.ran script keys).printed = [errLine ("Error: " ++ e.message)] := by
        rw [Prompt.ran, hresult]
      rw [hprinted]
      constructor
      · intro h
        left
        cases hchanges : changesOf p.session script keys with
        | nil => rfl
        | cons ch chs =>
            rw [hchanges] at h
            -- A report stands in the standard output, the error does not.
            have hmem : reportOf ch ∈ [errLine ("Error: " ++ e.message)] :=
              h.subset List.mem_cons_self
            simp [reportOf, outLine, errLine] at hmem
      · rintro (hnone | ⟨outcomes, hok⟩)
        · rw [hnone]
          exact List.nil_sublist _
        · cases hok

/-! ## Lines that are read -/

/-- A line that the prompt reads, the prompt before it, and the enumerations that
are given to the statements it runs. -/
structure Exchange where
  prompt : Prompt
  line : String
  keys : Enumerations

namespace Exchange

def turn (stamp : String) (x : Exchange) : Turn := x.prompt.answer stamp x.line x.keys

/-- The script that the line completes, if it does. -/
def script? (x : Exchange) : Option String :=
  (Text.erased? x.line).bind x.prompt.completed?

/-- The changes that are tried because of the line. -/
def attempts (x : Exchange) : List Attempt :=
  match x.script? with
  | some script =>
    x.prompt.session.attempts (Request.executeScript script).statements x.keys
  | none => []

/-- The changes that the line makes. -/
def changes (x : Exchange) : List Change := successes x.attempts

/-- The line completes a script, and the script is refused. -/
def Refused (x : Exchange) : Prop :=
  ∃ script e, x.script? = some script ∧
    (x.prompt.session.executeScript script x.keys).1 = .error e

end Exchange

namespace Prompt

/-- Commands do not change the session. -/
theorem session_command (stamp : String) (p : Prompt) (name : String)
    (arguments : List String) :
    (p.command stamp name arguments).prompt.session = p.session := by
  unfold command
  split <;> try rfl
  split <;> try rfl
  split <;> rfl

/-- Only a line that completes a script changes the session. -/
theorem session_step {stamp : String} {p : Prompt} {line : String}
    (h : p.completed? line = none) (keys : Enumerations) :
    (p.step stamp line keys).prompt.session = p.session := by
  unfold completed? at h
  split at h
  · next hcommand =>
      unfold step
      rw [if_pos hcommand]
      exact session_command _ _ _ _
  next hcommand =>
  split at h
  · cases h
  · next hopen =>
      rw [step_of_open (by simpa using hcommand) (by simpa using hopen)]

end Prompt

namespace Exchange

theorem turn_of_script {x : Exchange} {script : String} (stamp : String)
    (h : x.script? = some script) : x.turn stamp = x.prompt.ran script x.keys := by
  obtain ⟨text, herased, hcompleted⟩ := Option.bind_eq_some_iff.mp h
  rw [turn, Prompt.answer, herased]
  exact Prompt.step_of_completed hcompleted x.keys

theorem session_of_no_script {x : Exchange} (stamp : String) (h : x.script? = none) :
    (x.turn stamp).prompt.session = x.prompt.session := by
  rw [turn, Prompt.answer]
  cases herased : Text.erased? x.line with
  | none => rfl
  | some text =>
      rw [script?, herased] at h
      exact Prompt.session_step h x.keys

/-- The changes that are tried because of a line lead from the catalog before it
to the catalog after it. -/
theorem linked (x : Exchange) (stamp : String) :
    Linked x.prompt.session.catalog x.attempts (x.turn stamp).prompt.session.catalog := by
  unfold attempts
  cases hscript : x.script? with
  | none =>
      rw [session_of_no_script stamp hscript]
      exact .nil
  | some script =>
      have hlinked := x.prompt.session.linked_attempts
        (Request.executeScript script x.keys).statements
        (Request.executeScript script x.keys).keys
      rw [← Session.serve_eq_runAll] at hlinked
      rw [turn_of_script stamp hscript]
      exact hlinked

/-- **A line reports what it changed, unless its script is refused.** -/
theorem reports_iff (x : Exchange) (stamp : String) :
    (x.changes.map reportOf).Sublist (x.turn stamp).printed ↔
      (x.changes = [] ∨ ¬ x.Refused) := by
  cases hscript : x.script? with
  | none =>
      have hnone : x.changes = [] := by
        rw [changes, attempts, hscript]
        rfl
      simp [hnone]
  | some script =>
      have hchanges : x.changes = changesOf x.prompt.session script x.keys := by
        rw [changes, attempts, hscript]
        rfl
      have hrefused : ¬ x.Refused ↔
          ∃ outcomes, (x.prompt.session.executeScript script x.keys).1 = .ok outcomes := by
        cases hresult : (x.prompt.session.executeScript script x.keys).1 <;>
          simp [Refused, hscript, hresult]
      rw [hrefused, hchanges, turn_of_script stamp hscript]
      exact reports_of_ran_iff x.prompt script x.keys

theorem printed_of_refused {x : Exchange} (stamp : String) (h : x.Refused) :
    ∃ e : Error, (x.turn stamp).printed = [errLine ("Error: " ++ e.message)] := by
  obtain ⟨script, e, hscript, hresult⟩ := h
  refine ⟨e, ?_⟩
  rw [turn_of_script stamp hscript, Prompt.ran, hresult]

/-- A script of one statement is never refused after a change. -/
theorem reports_of_single {x : Exchange} {script : String} {st : Statement}
    (stamp : String) (hscript : x.script? = some script)
    (hsingle : Statement.ofScript script = .ok [st]) :
    (x.changes.map reportOf).Sublist (x.turn stamp).printed := by
  rw [reports_iff]
  by_cases hrefused : x.Refused
  · obtain ⟨script', e, hscript', hresult⟩ := hrefused
    rw [hscript] at hscript'
    cases hscript'
    left
    rw [Session.executeScript, hsingle] at hresult
    have hchanges : x.changes = successes (x.prompt.session.attempts [st] x.keys) := by
      simp [changes, attempts, hscript, Request.statements, hsingle, Except.toOption]
    rw [hchanges]
    exact successes_of_single (Prod.ext hresult rfl)
  · exact .inr hrefused

end Exchange

/-! ## Whole runs -/

/-- The lines that a prompt reads of an input, up to one that ends the run. -/
def Prompt.exchanges (stamp : String) (p : Prompt) (lines : List String)
    (keys : Nat → Enumerations) : List Exchange :=
  match lines with
  | [] => []
  | line :: rest =>
    let x : Exchange := ⟨p, line, keys 0⟩
    match (x.turn stamp).exitCode with
    | some _ => [x]
    | none => x :: (x.turn stamp).prompt.exchanges stamp rest fun i => keys (i + 1)

/-- The first line is read at the prompt itself, the others at the prompt after it. -/
theorem Prompt.exchanges_eq_cons {stamp : String} {p : Prompt} {lines : List String}
    {keys : Nat → Enumerations} {x : Exchange} {rest : List Exchange}
    (h : p.exchanges stamp lines keys = x :: rest) :
    x.prompt = p ∧ (rest = [] ∨ ∃ later,
      (x.turn stamp).prompt.exchanges stamp later (fun i => keys (i + 1)) = rest) := by
  cases lines with
  | nil => cases h
  | cons line later =>
      rw [exchanges] at h
      split at h
      · cases h
        exact ⟨rfl, .inl rfl⟩
      · cases h
        exact ⟨rfl, .inr ⟨later, rfl⟩⟩

/-- All that is printed at the prompt is what the lines come to, and a last line if
the input ends before the run does. -/
theorem Prompt.printed_converse (stamp : String) (p : Prompt) (lines : List String)
    (keys : Nat → Enumerations) :
    ∃ closing, (closing = [] ∨ closing = close.2) ∧
      (p.converse stamp lines keys).2 =
        (p.exchanges stamp lines keys).flatMap (fun x => (x.turn stamp).printed) ++
          closing := by
  induction lines generalizing p keys with
  | nil => exact ⟨close.2, .inr rfl, rfl⟩
  | cons line rest ih =>
      let x : Exchange := ⟨p, line, keys 0⟩
      cases hexit : (x.turn stamp).exitCode with
      | some exitCode =>
          refine ⟨[], .inl rfl, ?_⟩
          have hexit' : (p.answer stamp line (keys 0)).exitCode = some exitCode := hexit
          simp [converse, exchanges, hexit', Exchange.turn]
      | none =>
          obtain ⟨closing, hclosing, hprinted⟩ :=
            ih (x.turn stamp).prompt fun i => keys (i + 1)
          have hexit' : (p.answer stamp line (keys 0)).exitCode = none := hexit
          refine ⟨closing, hclosing, ?_⟩
          simp only [Exchange.turn, x] at hprinted
          simp [converse, exchanges, hexit', Exchange.turn, hprinted]

end Shell

/-- A name that is listed at the end of attempts was listed before, or one of them
created it. -/
theorem Linked.mem_tableNames {c last : Catalog} {log : List Attempt} {name : String}
    (h : Linked c log last) (hname : name ∈ last.tableNames) :
    name ∈ c.tableNames ∨ ∃ d, .create d ∈ successes log ∧ d.name = name := by
  induction h with
  | nil => exact .inl hname
  | @cons c ch log last _ ih =>
      rcases c.tried ch with ⟨e, herror, -, hsame⟩ | ⟨hok, -⟩
      · rw [hsame] at ih
        rw [herror]
        exact ih hname
      · rw [hok]
        rcases ih hname with hthere | ⟨d, hd, hdname⟩
        · obtain ⟨t, ht, rfl⟩ := List.mem_map.mp hthere
          rcases (Catalog.change_eq_ok_iff.mp hok).mem_tables ht with ht | rfl
          · exact .inl (List.mem_map_of_mem ht)
          · exact .inr ⟨t.definition, List.mem_cons_self, rfl⟩
        · exact .inr ⟨d, List.mem_cons_of_mem _ hd, hdname⟩

namespace Shell

/-- A name that is listed when a line is read was listed at the start, or an
earlier line created it. -/
theorem mem_tableNames_of_exchanges {stamp : String} {p : Prompt}
    {lines : List String} {keys : Nat → Enumerations} {past future : List Exchange}
    {x : Exchange} {name : String}
    (h : p.exchanges stamp lines keys = past ++ x :: future)
    (hname : name ∈ x.prompt.session.catalog.tableNames) :
    name ∈ p.session.catalog.tableNames ∨
      ∃ y ∈ past, ∃ d, .create d ∈ y.changes ∧ d.name = name := by
  induction past generalizing p lines keys with
  | nil =>
      obtain ⟨rfl, -⟩ := Prompt.exchanges_eq_cons h
      exact .inl hname
  | cons y past ih =>
      obtain ⟨rfl, hrest⟩ := Prompt.exchanges_eq_cons h
      rcases hrest with hnone | ⟨later, hlater⟩
      · simp at hnone
      · rcases ih hlater with hthere | ⟨z, hz, hcreated⟩
        · -- It was listed behind the first line, so the line has to be looked at.
          rcases (y.linked stamp).mem_tableNames hthere with hbefore | hcreated
          · exact .inl hbefore
          · exact .inr ⟨y, List.mem_cons_self, hcreated⟩
        · exact .inr ⟨z, List.mem_cons_of_mem _ hz, hcreated⟩

/-- The tables that are listed when the prompt is asked for them. -/
theorem Prompt.answer_tables (stamp : String) {p : Prompt} (hp : p.pending = "")
    (keys : Enumerations) :
    p.answer stamp ".tables" keys = ⟨p, tablesText p.session.catalog, none⟩ := by
  have herased : Text.erased? ".tables" = some ".tables" := by cbv
  have htrim : Text.trim ".tables" = ".tables" := rfl
  have hpoint : ".tables".startsWith "." = true := by simp
  have hwords : Text.words ".tables" = [".tables"] := by cbv
  simp [answer, herased, step, htrim, hpoint, hwords, command, hp]

/-! ## From the start of a run -/

theorem ended_of_openSession {o : Options} {texts : FileTexts} {keys : Enumerations}
    {begun : Begun} (h : o.openSession texts keys = .error begun) :
    ∃ exitCode printed, begun = .ended exitCode printed := by
  unfold Options.openSession at h
  cases hsettings : o.settings texts with
  | error e =>
      rw [hsettings] at h
      cases h
      exact ⟨_, _, rfl⟩
  | ok settings =>
      rw [hsettings] at h
      simp only [pure_eq_ok, ok_bind] at h
      repeat' split at h
      all_goals
        cases h
        try exact ⟨_, _, rfl⟩

/-- The prompt begins with the session that the options open. -/
theorem openSession_of_start {o : Options} {texts : FileTexts}
    {keys : Nat → Enumerations} {opening : List Printed} {p : Prompt}
    (h : o.start texts keys = .prompting opening p) :
    o.openSession texts (keys 0) = .ok p.session := by
  unfold Options.start at h
  split at h
  · next begun hbegun =>
      obtain ⟨exitCode, printed, hended⟩ := ended_of_openSession hbegun
      rw [hended] at h
      cases h
  · next session hsession =>
      dsimp only at h
      split at h
      · split at h <;> cases h
      · split at h <;> cases h
        exact hsession

theorem run_of_start {arguments : List String} {surroundings left : Surroundings}
    {o : Options} {texts : FileTexts} {keys : Nat → Enumerations}
    {opening : List Printed} {p : Prompt}
    (harguments : Options.ofArguments arguments = .ok o)
    (hfiles : o.readFiles surroundings = (texts, left))
    (hstart : o.start texts keys = .prompting opening p) (stamp : String) :
    let answers := p.converse stamp (linesOf left.input) fun i => keys (i + 1)
    run stamp arguments surroundings keys = (answers.1, opening ++ answers.2) := by
  simp only [run, harguments, hfiles, hstart]

/-- **The prompt reports what it changes, unless a script is refused.** Take a run
whose arguments lead to the prompt. It prints its opening, then what each line
comes to, and perhaps a last line. The changes that a line makes lead from the
catalog before it to the one after it. They are reported among what is printed of
the line, in order, exactly if there are none or the script that the line completes
is not refused, as one of a single statement never is after a change; of a refused
script the error is all that is printed. So a table that is listed when a line is
read, by `.tables` say, was there when the prompt began, or an earlier line created
it and reported that, or an earlier line created it by a script that was refused. -/
theorem changes_reported {arguments : List String} {surroundings left : Surroundings}
    {o : Options} {texts : FileTexts} {keys : Nat → Enumerations}
    {opening : List Printed} {p : Prompt}
    (harguments : Options.ofArguments arguments = .ok o)
    (hfiles : o.readFiles surroundings = (texts, left))
    (hstart : o.start texts keys = .prompting opening p) (stamp : String) :
    let exchanges := p.exchanges stamp (linesOf left.input) fun i => keys (i + 1)
    o.openSession texts (keys 0) = .ok p.session ∧
    (∃ closing, (closing = [] ∨ closing = Prompt.close.2) ∧
      (run stamp arguments surroundings keys).2 =
        opening ++ exchanges.flatMap (fun x => (x.turn stamp).printed) ++ closing) ∧
    ∀ past x future, exchanges = past ++ x :: future →
      Linked x.prompt.session.catalog x.attempts
        (x.turn stamp).prompt.session.catalog ∧
      ((x.changes.map reportOf).Sublist (x.turn stamp).printed ↔
        (x.changes = [] ∨ ¬ x.Refused)) ∧
      (∀ script st, x.script? = some script → Statement.ofScript script = .ok [st] →
        (x.changes.map reportOf).Sublist (x.turn stamp).printed) ∧
      (x.Refused → ∃ e : Error,
        (x.turn stamp).printed = [errLine ("Error: " ++ e.message)]) ∧
      (x.prompt.pending = "" → x.line = ".tables" →
        (x.turn stamp).printed = tablesText x.prompt.session.catalog) ∧
      ∀ name ∈ x.prompt.session.catalog.tableNames,
        name ∈ p.session.catalog.tableNames ∨ ∃ y ∈ past,
          outLine ("Table '" ++ name ++ "' created") ∈ (y.turn stamp).printed ∨
            (y.Refused ∧ ∃ d, .create d ∈ y.changes ∧ d.name = name) := by
  intro exchanges
  refine ⟨openSession_of_start hstart, ?_, fun past x future hsplit => ?_⟩
  · obtain ⟨closing, hclosing, hprinted⟩ :=
      p.printed_converse stamp (linesOf left.input) fun i => keys (i + 1)
    refine ⟨closing, hclosing, ?_⟩
    rw [run_of_start harguments hfiles hstart, hprinted, List.append_assoc]
  · refine ⟨x.linked stamp, x.reports_iff stamp,
      fun script st => Exchange.reports_of_single stamp,
      Exchange.printed_of_refused stamp, fun hpending hline => ?_, fun name hname => ?_⟩
    · rw [Exchange.turn, hline, Prompt.answer_tables stamp hpending]
    rcases mem_tableNames_of_exchanges hsplit hname with hthere | ⟨y, hy, d, hd, rfl⟩
    · exact .inl hthere
    · refine .inr ⟨y, hy, ?_⟩
      by_cases hrefused : y.Refused
      · exact .inr ⟨hrefused, d, hd, rfl⟩
      · have hreports := (y.reports_iff stamp).mpr (.inr hrefused)
        exact .inl (hreports.subset (List.mem_map_of_mem (f := reportOf) hd))

/-- A line that is a whole script. -/
theorem Exchange.script?_of_line {p : Prompt} {line : String} (hp : p.pending = "")
    (herased : erased? line = some line) (htrim : trim line = line)
    (hpoint : ¬ ['.'] <+: line.toList) (hends : [';'] <:+ line.toList)
    (keys : Enumerations) : script? ⟨p, line, keys⟩ = some line := by
  have hpoint' : line.startsWith "." = false :=
    String.startsWith_string_eq_false_iff.mpr hpoint
  have hends' : line.endsWith ";" = true := endsWith_iff.mpr hends
  have hne : line ≠ "" := by
    rintro rfl
    simp at hends
  rw [script?, herased, Option.bind_some]
  simp [Prompt.completed?, Prompt.gathered, hp, htrim, hpoint', hends', hne]

/-- A table is created and then listed. -/
theorem changes_reported_create :
    let p : Prompt := { session := { catalog := .empty }, format := .table }
    let x : Exchange := ⟨p, "CREATE TABLE t (a INT);", .listed⟩
    x.changes = [.create ⟨"t", [⟨"a", .integer, true⟩]⟩] ∧
      (x.changes.map reportOf).Sublist (x.turn "").printed ∧
      ∃ closing, (run "" ["--interactive"]
          ⟨[], "CREATE TABLE t (a INT);\n.tables\n"⟩).2 =
        [.out banner] ++ ((x.turn "").printed ++ [outLine "t"]) ++ closing := by
  have harguments : Options.ofArguments ["--interactive"] =
      .ok { interactive := true } := by cbv
  have hlines : linesOf "CREATE TABLE t (a INT);\n.tables\n" =
      ["CREATE TABLE t (a INT);", ".tables"] := by cbv
  have herased : erased? "CREATE TABLE t (a INT);" =
      some "CREATE TABLE t (a INT);" := by cbv
  have hread : Statement.ofScript "CREATE TABLE t (a INT);" =
      .ok [.createTable ⟨"t", [⟨"a", .integer, true⟩]⟩] := by cbv
  intro p x
  have hscript : x.script? = some "CREATE TABLE t (a INT);" :=
    Exchange.script?_of_line rfl herased (by decide) (by decide) (by decide) .listed
  have hturn : x.turn "" = p.ran "CREATE TABLE t (a INT);" .listed :=
    Exchange.turn_of_script "" hscript
  have hpending : (x.turn "").prompt.pending = "" := by rw [hturn]; rfl
  have hexit : (x.turn "").exitCode = none := by rw [hturn]; rfl
  have hnames :
      (p.ran "CREATE TABLE t (a INT);" .listed).prompt.session.catalog.tableNames =
        ["t"] := by
    show (Session.executeScript _ _).2.catalog.tableNames = _
    rw [Session.executeScript, hread]
    rfl
  let y : Exchange := ⟨(x.turn "").prompt, ".tables", .listed⟩
  have hy : y.turn "" = ⟨(x.turn "").prompt, [outLine "t"], none⟩ := by
    rw [Exchange.turn, Prompt.answer_tables "" hpending .listed, hturn, tablesText,
      hnames]
    rfl
  have hexchanges : (p.exchanges "" ["CREATE TABLE t (a INT);", ".tables"] fun _ =>
      .listed) = [x, y] := by
    simp [Prompt.exchanges, hexit, hy, x, y]
  let surroundings : Surroundings := ⟨[], "CREATE TABLE t (a INT);\n.tables\n"⟩
  have hfiles : Options.readFiles { interactive := true } surroundings =
      ({}, surroundings) := rfl
  have hstart : Options.start { interactive := true } {} (fun _ => .listed) =
      .prompting [.out banner] p := rfl
  obtain ⟨-, ⟨closing, -, hprinted⟩, hall⟩ :=
    changes_reported harguments hfiles hstart ""
  have hread_lines : (p.exchanges "" (linesOf surroundings.input) fun _ => .listed) =
      [x, y] := by
    rw [← hexchanges, ← hlines]
  have hreports := (hall [] x [y] hread_lines).2.2.1 _ _ hscript hread
  rw [hread_lines] at hprinted
  have hchanges : x.changes = [.create ⟨"t", [⟨"a", .integer, true⟩]⟩] := by
    rw [Exchange.changes, Exchange.attempts, hscript]
    show successes
      (p.session.attempts ((Statement.ofScript _).toOption.getD []) .listed) = _
    rw [hread]
    rfl
  refine ⟨hchanges, hreports, closing, ?_⟩
  simpa [hy] using hprinted

/-- **A change may go unreported.** The second statement of the first line is
refused, so the table that the first one created is not reported; it is there
all the same. -/
theorem changes_unreported :
    let surroundings : Surroundings :=
      ⟨[], "CREATE TABLE t (a INT); SELECT * FROM nope;\n.tables\n"⟩
    run "" ["--interactive"] surroundings =
      (0, [.out banner, errLine "Error: Table 'nope' does not exist in catalog 'main'",
        outLine "t", outLine "exit"]) := by
  have harguments : Options.ofArguments ["--interactive"] =
      .ok { interactive := true } := by cbv
  have hlines : linesOf "CREATE TABLE t (a INT); SELECT * FROM nope;\n.tables\n" =
      ["CREATE TABLE t (a INT); SELECT * FROM nope;", ".tables"] := by cbv
  have herased : erased? "CREATE TABLE t (a INT); SELECT * FROM nope;" =
      some "CREATE TABLE t (a INT); SELECT * FROM nope;" := by cbv
  have hread : Statement.ofScript "CREATE TABLE t (a INT); SELECT * FROM nope;" =
      .ok [.createTable ⟨"t", [⟨"a", .integer, true⟩]⟩,
        .select ⟨["nope"], [⟨none, "*", .plain⟩], []⟩] := by cbv
  have hresult : (Session.executeScript { catalog := .empty }
      "CREATE TABLE t (a INT); SELECT * FROM nope;").1 =
        .error (.tableMissing "nope" "main") := by
    rw [Session.executeScript, hread]
    rfl
  have hnames : (Session.executeScript { catalog := .empty }
      "CREATE TABLE t (a INT); SELECT * FROM nope;").2.catalog.tableNames = ["t"] := by
    rw [Session.executeScript, hread]
    rfl
  intro surroundings
  let p : Prompt := { session := { catalog := .empty }, format := .table }
  let ran := p.ran "CREATE TABLE t (a INT); SELECT * FROM nope;" .listed
  have hfiles : Options.readFiles { interactive := true } surroundings =
      ({}, surroundings) := rfl
  have hstart : Options.start { interactive := true } {} (fun _ => .listed) =
      .prompting [.out banner] p := rfl
  have hfirst : p.answer "" "CREATE TABLE t (a INT); SELECT * FROM nope;" .listed = ran :=
    Exchange.turn_of_script "" (Exchange.script?_of_line (p := p) rfl herased
      (by decide) (by decide) (by decide) .listed)
  have hprinted : ran.printed =
      [errLine "Error: Table 'nope' does not exist in catalog 'main'"] := by
    show (Prompt.ran p _ _).printed = _
    rw [Prompt.ran, hresult]
    rfl
  have hsecond : ran.prompt.answer "" ".tables" .listed =
      ⟨ran.prompt, [outLine "t"], none⟩ := by
    have hlisted : ran.prompt.session.catalog.tableNames = ["t"] := hnames
    rw [Prompt.answer_tables "" rfl .listed, tablesText, hlisted]
    rfl
  have hexit : ran.exitCode = none := rfl
  have hconverse : (p.converse "" (linesOf surroundings.input) fun _ => .listed) =
      (0, ran.printed ++ [outLine "t", outLine "exit"]) := by
    rw [show linesOf surroundings.input = _ from hlines]
    simp [Prompt.converse, hfirst, hexit, hsecond, Prompt.close]
  rw [run_of_start harguments hfiles hstart, hconverse, hprinted]
  rfl

end Shell

end QueryBind
