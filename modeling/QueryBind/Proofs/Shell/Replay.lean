import QueryBind.Proofs.Schema.Printing
import QueryBind.Proofs.Schema.RoundTrip
import QueryBind.Proofs.Session.History
import QueryBind.Shell.Prompt

/-!
# The shown schema replays

What the prompt shows of a schema is a script: of each table the statement that
creates it, below a comment with its time. Run on an empty catalog it gives the
same definition again, provided that every name in it can stand without quotes.
The names of a schema can if the script that made it quotes none: a run adds no
table but by its statements, and their names come from words.
-/

namespace QueryBind

open Sql

/-! ## Scripts without quoted names -/

namespace Sql

/-- No lexeme of a text is a name between quotes. -/
def QuotesNoName (text : String) : Prop :=
  ∀ ls, Divides text.toList ls → ∀ content, Lexeme.name content ∉ ls

theorem Divides.not_mem_name {cs : List Char} {ls : List Lexeme}
    (h : Divides cs ls) (hcs : '"' ∉ cs) (content : List Char) :
    Lexeme.name content ∉ ls := by
  induction h with
  | nil => simp
  | blank _ _ ih => exact ih fun hmem => hcs (List.mem_cons_of_mem _ hmem)
  | comment _ _ _ ih =>
      exact ih fun hmem => hcs ((List.dropWhile_sublist _).subset hmem)
  | @lexeme c cs l rest ls _ _ hfirst _ ih =>
      rw [Lexeme.eq_written_append_of_first hfirst] at hcs
      rw [List.mem_cons, not_or]
      refine ⟨?_, ih fun hmem => hcs (List.mem_append_right _ hmem)⟩
      rintro rfl
      exact hcs (List.mem_append_left _ List.mem_cons_self)

/-- A text without the quote has no such lexeme. -/
theorem quotesNoName_of_not_mem {text : String} (h : '"' ∉ text.toList) :
    QuotesNoName text :=
  fun _ hdivides content => hdivides.not_mem_name h content

theorem isWritable_of_ofScript {text : String} {sts : List Statement}
    (hquotes : QuotesNoName text) (h : Statement.ofScript text = .ok sts)
    {d : TableDefinition} (hd : .createTable d ∈ sts) : d.IsWritable := by
  obtain ⟨ls, hdivides, hscript⟩ := ofScript_eq_ok_iff.mp h
  refine hscript.isWritable (fun t ht => ?_) hd
  obtain ⟨l, hl, rfl⟩ := List.mem_map.mp ht
  refine ⟨l, hdivides.isFormed l hl, ?_, rfl⟩
  rintro content rfl
  exact hquotes ls hdivides content hl

end Sql

/-! ## What a run creates -/

namespace Session

theorem mem_tables_run {s s' : Session} {st : Statement} {keys : Enumeration}
    {outcome : Outcome} {t : Table} (h : s.run st keys = .ok (outcome, s')) (ht : t ∈ s'.catalog.tables) :
    t ∈ s.catalog.tables ∨ st = .createTable t.definition := by
  rcases run_cases h with rfl | ⟨ch, catalog, hchange, hstep, rfl⟩
  · exact .inl ht
  · rcases hstep.mem_tables ht with ht | rfl
    · exact .inl ht
    · -- Only a CREATE TABLE asks for a creation.
      cases st <;> cases hchange
      exact .inr rfl

/-- A table that is there after a run was there before, or one of the statements
created it. -/
theorem mem_tables_runAll {s : Session} {sts : List Statement} {keys : Enumerations}
    {t : Table} (ht : t ∈ (s.runAll sts keys).2.catalog.tables) :
    t ∈ s.catalog.tables ∨ .createTable t.definition ∈ sts := by
  induction sts generalizing s keys with
  | nil => exact .inl ht
  | cons st sts ih =>
      rw [runAll] at ht
      cases hrun : s.run st (keys 0) with
      | error e =>
          rw [hrun] at ht
          exact .inl ht
      | ok result =>
          obtain ⟨outcome, s'⟩ := result
          rw [hrun] at ht
          rcases ih ht with ht | ht
          · rcases mem_tables_run hrun ht with ht | rfl
            · exact .inl ht
            · exact .inr List.mem_cons_self
          · exact .inr (List.mem_cons_of_mem _ ht)

/-- Creations that succeed one after another do so as statements. -/
theorem runAll_creations {s : Session} {ds : List TableDefinition} {c : Catalog}
    (h : ds.foldlM Catalog.createTable s.catalog = .ok c) (keys : Enumerations) :
    s.runAll (ds.map .createTable) keys =
      (.ok (ds.map (.created ·.name)), { s with catalog := c }) := by
  induction ds generalizing s keys with
  | nil =>
      cases h
      rfl
  | cons d ds ih =>
      rw [List.foldlM_cons] at h
      obtain ⟨c₁, hfirst, hrest⟩ := bind_eq_ok_iff.mp h
      have hrun : s.run (.createTable d) (keys 0) =
          .ok (.created d.name, { s with catalog := c₁ }) := by
        rw [run, hfirst]
        rfl
      have hothers := @ih { s with catalog := c₁ } hrest keys.tail
      rw [List.map_cons, runAll, hrun]
      dsimp only
      rw [hothers]
      rfl

end Session

/-! ## The shown schema as a script -/

namespace Shell

/-- All that is printed to the standard output. -/
def outText (printed : List Printed) : String :=
  String.join (printed.map fun
    | .out text => text
    | .err _ => "")

theorem outText_append (ps qs : List Printed) :
    outText (ps ++ qs) = outText ps ++ outText qs := by
  simp [outText]

/-- What is shown of one table: the comment and the statement. -/
def entryText (stamp : String → String) (t : Table) : String :=
  "-- created " ++ stamp t.name ++ "\n" ++ (t.createStatement ++ "\n")

theorem outText_schemaText (stamp : String → String) (c : Catalog) :
    outText (schemaText stamp c none) = String.join (c.tables.map (entryText stamp)) := by
  have hall : (c.tables.filter fun t => (none : Option String).all (· == t.name)) =
      c.tables := by
    simp
  rw [schemaText, hall]
  induction c.tables with
  | nil => rfl
  | cons t ts ih =>
      rw [List.flatMap_cons, outText_append, ih]
      simp [outText, outLine, entryText]

/-- What is shown of a table is one statement and the semicolon behind it. -/
theorem divides_entryText {stamp : String → String} {t : Table}
    (hstamp : '\n' ∉ (stamp t.name).toList) (ht : t.definition.IsWritable) :
    ∃ ls, StatementOf (tokensOf ls) (.createTable t.definition) ∧
      ∀ rest ls', Divides rest ls' → Divides ((entryText stamp t).toList ++ rest)
        (ls ++ .mark .semicolon [';'] :: ls') := by
  obtain ⟨cs, htext, ls, hyields, hst⟩ := t.exists_createStatement ht
  refine ⟨ls, hst, fun rest ls' hrest => ?_⟩
  have hend : Divides (';' :: '\n' :: rest) (.mark .semicolon [';'] :: ls') :=
    .mark rfl (by decide) (.blank (by decide) hrest)
  have hstatement := hyields _ _ (by simp [isContinuing, isWordChar]) hend
  have hcomment : '\n' ∉ (" created " ++ stamp t.name).toList := by
    simp [hstamp]
  have hentry := Divides.commentLine hcomment hstatement
  simpa [entryText, htext] using hentry

theorem ofScript_entries {stamp : String → String} {ts : List Table}
    (hstamp : ∀ t ∈ ts, '\n' ∉ (stamp t.name).toList)
    (hts : ∀ t ∈ ts, t.definition.IsWritable) :
    Statement.ofScript (String.join (ts.map (entryText stamp))) =
      .ok (ts.map fun t => .createTable t.definition) := by
  refine ofScript_eq_ok_iff.mpr ?_
  induction ts with
  | nil => exact ⟨[], .nil, .empty (by simp [Semicolons])⟩
  | cons t ts ih =>
      obtain ⟨ht, hts⟩ := List.forall_mem_cons.mp hts
      obtain ⟨hstamp, hstamps⟩ := List.forall_mem_cons.mp hstamp
      obtain ⟨ls, hst, hentry⟩ := divides_entryText hstamp ht
      obtain ⟨ls', hothers, hscript⟩ := ih hstamps hts
      refine ⟨ls ++ .mark .semicolon [';'] :: ls', ?_, ?_⟩
      · simpa using hentry _ _ hothers
      · have hall := hscript.statement hst (kind_mark .semicolon [';'])
        simpa using hall

/-- A schema with names that can stand without quotes replays. -/
theorem executeScript_schemaText {c : Catalog} {stamp : String → String}
    (hname : c.name = defaultCatalogName)
    (hwritable : ∀ t ∈ c.tables, t.definition.IsWritable)
    (hstamp : ∀ name ∈ c.tableNames, '\n' ∉ (stamp name).toList)
    (settings : Settings) (keys : Enumerations) :
    ∃ s, Session.executeScript { catalog := .empty, settings }
        (outText (schemaText stamp c none)) keys =
          (.ok (c.tableNames.map .created), s) ∧
      s.catalog.definition = c.definition := by
  -- The definition makes its catalog table by table, as its statements do.
  obtain ⟨c', hc', hcname, hctables⟩ := c.exists_ofDefinition_definition
  have hcreate : c.definition.tables.foldlM Catalog.createTable .empty = .ok c' := by
    rw [← hc', Catalog.ofDefinition]
    show _ = List.foldlM _ (Catalog.empty c.name) _
    rw [hname]
  have hscript := ofScript_entries
    (fun t ht => hstamp t.name (List.mem_map_of_mem ht)) hwritable
  refine ⟨{ catalog := c', settings }, ?_, ?_⟩
  · have hcreations := Session.runAll_creations
      (s := { catalog := .empty, settings }) hcreate keys
    rw [outText_schemaText, Session.executeScript, hscript]
    simpa [Catalog.definition_tables, Catalog.tableNames, Table.name,
      Function.comp_def] using hcreations
  · rw [Catalog.definition, Catalog.definition, hcname, hctables]

/-- What a script leaves on an empty catalog, if it quotes no name. -/
theorem isWritable_of_executeScript {script : String} {settings : Settings}
    {keys : Enumerations} {outcomes : List Outcome} {s : Session}
    (hquotes : QuotesNoName script)
    (hrun : Session.executeScript { catalog := .empty, settings } script keys =
      (.ok outcomes, s)) :
    s.catalog.name = defaultCatalogName ∧
      ∀ t ∈ s.catalog.tables, t.definition.IsWritable := by
  unfold Session.executeScript at hrun
  split at hrun
  · cases hrun
  next sts hsts =>
  have hlast : (Session.runAll { catalog := .empty, settings } sts keys).2 = s :=
    congrArg Prod.snd hrun
  subst hlast
  refine ⟨(Session.linked_attempts _ sts keys).name_eq, fun t ht => ?_⟩
  rcases Session.mem_tables_runAll ht with hempty | hcreated
  · cases hempty
  · exact isWritable_of_ofScript hquotes hsts hcreated

/-- The command without an argument shows all tables. -/
theorem printed_schema (stamp : String) (s : Session) (format : OutputFormat)
    (keys : Enumerations) :
    (Prompt.answer stamp ⟨s, format, ""⟩ ".schema" keys).printed =
      schemaText (fun _ => stamp) s.catalog none := by
  have herased : Text.erased? ".schema" = some ".schema" := rfl
  have htrim : Text.trim ".schema" = ".schema" := rfl
  have hpoint : ".schema".startsWith "." = true := by simp
  have hwords : Text.words ".schema" = [".schema"] := by cbv
  simp [Prompt.answer, herased, Prompt.step, htrim, hpoint, hwords, Prompt.command]

/-- **The shown schema replays.** Run a script that quotes no name on an empty
catalog. If it succeeds, the text that the prompt then shows of the schema,
whatever times of creation it says in a line, runs on another empty catalog: it
creates each table in the order of the names, and the definition of the second
catalog is that of the first. -/
theorem schema_replays {script : String} {settings : Settings} {keys : Enumerations}
    {outcomes : List Outcome} {s : Session} (hquotes : QuotesNoName script)
    (hrun : Session.executeScript { catalog := .empty, settings } script keys =
      (.ok outcomes, s))
    {stamp : String → String}
    (hstamp : ∀ name ∈ s.catalog.tableNames, '\n' ∉ (stamp name).toList)
    (settings' : Settings) (keys' : Enumerations) :
    (∀ (time : String) (format : OutputFormat) (keys : Enumerations),
      (Prompt.answer time ⟨s, format, ""⟩ ".schema" keys).printed =
        schemaText (fun _ => time) s.catalog none) ∧
    ∃ s', Session.executeScript { catalog := .empty, settings := settings' }
        (outText (schemaText stamp s.catalog none)) keys' =
          (.ok (s.catalog.tableNames.map .created), s') ∧
      s'.catalog.definition = s.catalog.definition := by
  obtain ⟨hname, hwritable⟩ := isWritable_of_executeScript hquotes hrun
  constructor
  · intro time format keys
    exact printed_schema time s format keys
  · exact executeScript_schemaText hname hwritable hstamp settings' keys'

set_option maxRecDepth 1000 in
/-- A name that is the keyword of a function, a length, and a table that is
dropped again. -/
theorem schema_replays_dropped :
    let script := "CREATE TABLE t(x INT);CREATE TABLE u(sum CHAR(12) NOT NULL);DROP TABLE t"
    ∃ s s', Session.executeScript { catalog := .empty } script =
        (.ok [.created "t", .created "u", .dropped "t"], s) ∧
      outText (schemaText (fun _ => "today") s.catalog none) =
        "-- created today\nCREATE TABLE u (\n  sum CHAR(12) NOT NULL\n);\n" ∧
      Session.executeScript { catalog := .empty }
        (outText (schemaText (fun _ => "today") s.catalog none)) =
          (.ok [.created "u"], s') ∧
      s'.catalog.definition = s.catalog.definition := by
  intro script
  let d : TableDefinition := ⟨"u", [⟨"sum", .char 12, false⟩]⟩
  have hd : d.IsValid := ⟨by decide, by decide, by decide, by decide⟩
  let s : Session :=
    { catalog := ⟨"main", [⟨d, hd⟩], 4, List.pairwise_singleton _ _⟩ }
  have hquotes : QuotesNoName script := quotesNoName_of_not_mem (by decide)
  have hrun : Session.executeScript { catalog := .empty } script =
      (.ok [.created "t", .created "u", .dropped "t"], s) := by cbv
  have hstamp : ∀ _ ∈ s.catalog.tableNames, '\n' ∉ "today".toList :=
    fun _ _ => by decide
  have hshown : outText (schemaText (fun _ => "today") s.catalog none) =
      "-- created today\nCREATE TABLE u (\n  sum CHAR(12) NOT NULL\n);\n" := rfl
  obtain ⟨-, s', hreplay, hsame⟩ :=
    @schema_replays script {} .listed _ s hquotes hrun (fun _ => "today") hstamp {}
      .listed
  exact ⟨s, s', hrun, hshown, hreplay, hsame⟩

end Shell

end QueryBind
