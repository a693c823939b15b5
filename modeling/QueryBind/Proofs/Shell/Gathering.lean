import QueryBind.Proofs.Sql.Breaks
import QueryBind.Shell.Prompt

/-!
# Statements over several lines

The prompt trims the lines of a statement, leaves out the blank ones and puts
single spaces between the others. Read as a text of its own, with its line feeds,
the input would be other characters, but as long as no line ends in a comment or
within quotes it divides into the same lexemes, and so it runs as the same script.
-/

namespace QueryBind

open Sql Text

/-! ## Blanks at the ends -/

namespace Text

/-- A text is what is left of it when it is trimmed, with blanks on either side. -/
theorem exists_trimChars (cs : List Char) : ∃ lead trail,
    cs = lead ++ trimChars cs ++ trail ∧ (∀ c ∈ lead, isBlankChar c = true) ∧
      ∀ c ∈ trail, isBlankChar c = true := by
  have hfront : cs.takeWhile isBlankChar ++ skipBlank cs = cs :=
    List.takeWhile_append_dropWhile
  have hback : (skipBlank cs).reverse.takeWhile isBlankChar ++
      skipBlank (skipBlank cs).reverse = (skipBlank cs).reverse :=
    List.takeWhile_append_dropWhile
  refine ⟨cs.takeWhile isBlankChar,
    ((skipBlank cs).reverse.takeWhile isBlankChar).reverse, ?_, ?_, ?_⟩
  · rw [trimChars, List.append_assoc, ← List.reverse_append, hback,
      List.reverse_reverse, hfront]
  · exact fun c hc => List.mem_takeWhile_imp hc
  · exact fun c hc => List.mem_takeWhile_imp (List.mem_reverse.mp hc)

theorem toList_trim (s : String) : (trim s).toList = trimChars s.toList :=
  String.toList_ofList

end Text

namespace Sql

theorem divides_blanks_append_iff {bs cs : List Char} {ls : List Lexeme}
    (hbs : ∀ c ∈ bs, isBlankChar c = true) :
    Divides (bs ++ cs) ls ↔ Divides cs ls := by
  induction bs with
  | nil => rfl
  | cons b bs ih =>
      rw [List.forall_mem_cons] at hbs
      rw [List.cons_append, divides_blank_cons_iff hbs.1, ih hbs.2]

theorem divides_append_blanks_iff {bs cs : List Char} {ls : List Lexeme}
    (hbs : ∀ c ∈ bs, isBlankChar c = true) :
    Divides (cs ++ bs) ls ↔ Divides cs ls := by
  induction bs generalizing cs with
  | nil => rw [List.append_nil]
  | cons b bs ih =>
      rw [List.forall_mem_cons] at hbs
      have hone : Divides (cs ++ [b]) ls ↔ Divides cs ls := by
        rw [divides_append_blank_iff hbs.1 (.inr rfl)]
        simp [divides_nil_iff]
      rw [List.append_cons, ih hbs.2, hone]

/-- Trimming a text leaves it its lexemes. -/
theorem divides_trimChars_iff {cs : List Char} {ls : List Lexeme} :
    Divides (trimChars cs) ls ↔ Divides cs ls := by
  obtain ⟨lead, trail, hcs, hlead, htrail⟩ := exists_trimChars cs
  rw [hcs, divides_append_blanks_iff htrail, divides_blanks_append_iff hlead, ← hcs]

/-- So does trimming what stands before a line feed, if it leaves nothing open. -/
theorem divides_line_iff {line rest : List Char} {ls : List Lexeme}
    (hclosed : closes (trimChars line) = true) :
    Divides (line ++ '\n' :: rest) ls ↔ ∃ before after, ls = before ++ after ∧
      Divides (trimChars line) before ∧ Divides rest after := by
  obtain ⟨lead, trail, hline, hlead, htrail⟩ := exists_trimChars line
  obtain ⟨d, ds, hds⟩ : ∃ d ds, trail ++ ['\n'] = d :: ds :=
    List.exists_cons_of_ne_nil (by simp)
  have hblank : ∀ c ∈ d :: ds, isBlankChar c = true := by
    rw [← hds, List.forall_mem_append]
    exact ⟨htrail, by simpa using isBlankChar_lineFeed⟩
  rw [List.forall_mem_cons] at hblank
  have htext : line ++ '\n' :: rest = lead ++ (trimChars line ++ d :: (ds ++ rest)) := by
    rw [← List.cons_append, ← hds]
    nth_rewrite 1 [hline]
    simp
  rw [htext, divides_blanks_append_iff hlead,
    divides_append_blank_iff hblank.1 (.inl hclosed)]
  simp only [divides_blanks_append_iff hblank.2]

/-! ## Texts of the same lexemes -/

/-- Texts that divide alike have tokens of the same content, or none of them has. -/
theorem content_eq_of_divides_iff {text text' : String}
    (h : ∀ ls, Divides text.toList ls ↔ Divides text'.toList ls) :
    (tokenize text).toOption.map (·.map Token.content) =
      (tokenize text').toOption.map (·.map Token.content) := by
  -- What one text scans to, the other scans to as well, up to places.
  have hone : ∀ {a b : String}, (∀ ls, Divides a.toList ls ↔ Divides b.toList ls) →
      ∀ ts, tokenize a = .ok ts → ∃ us, tokenize b = .ok us ∧ Alike ts us := by
    intro a b hab ts hts
    obtain ⟨ls, body, q, hdivides, halike, rfl⟩ := divides_of_scan hts
    obtain ⟨body', q', hscan, halike'⟩ :=
      ((hab ls).mp hdivides).exists_scan Position.start
    refine ⟨_, hscan, ?_⟩
    rw [Alike, List.map_append, List.map_append, ← halike, halike']
    rfl
  cases hts : tokenize text with
  | ok ts =>
      obtain ⟨us, hus, halike⟩ := hone h ts hts
      rw [hus]
      exact congrArg some halike
  | error e =>
      cases hus : tokenize text' with
      | error e' => rfl
      | ok us =>
          obtain ⟨ts, hts', -⟩ := hone (fun ls => (h ls).symm) us hus
          rw [hts] at hts'
          cases hts'

theorem ofScript_congr {text text' : String}
    (h : ∀ ls, Divides text.toList ls ↔ Divides text'.toList ls)
    {sts : List Statement} :
    Statement.ofScript text = .ok sts ↔ Statement.ofScript text' = .ok sts := by
  simp only [ofScript_eq_ok_iff, h]

end Sql

/-- Texts of the same lexemes run as the same script, or neither is read. -/
theorem Session.executeScript_congr (s : Session) (keys : Enumerations)
    {text text' : String} (h : ∀ ls, Divides text.toList ls ↔ Divides text'.toList ls) :
    s.executeScript text keys = s.executeScript text' keys ∨
      ∃ e e', s.executeScript text keys = (.error (.parse e), s) ∧
        s.executeScript text' keys = (.error (.parse e'), s) := by
  unfold executeScript
  cases hread : Statement.ofScript text with
  | ok sts =>
      rw [(ofScript_congr h).mp hread]
      exact .inl rfl
  | error e =>
      cases hread' : Statement.ofScript text' with
      | error e' => exact .inr ⟨e, e', rfl, rfl⟩
      | ok sts =>
          rw [(ofScript_congr h).mpr hread'] at hread
          cases hread

/-! ## Lines -/

namespace Shell

/-- The lines that count, without the blanks at their ends. -/
def trimmedLines (lines : List String) : List String :=
  (lines.map trim).filter (!·.isEmpty)

theorem trimmedLines_append (lines lines' : List String) :
    trimmedLines (lines ++ lines') = trimmedLines lines ++ trimmedLines lines' := by
  rw [trimmedLines, List.map_append, List.filter_append]
  rfl

theorem intercalate_cons {separator text : String} {texts : List String}
    (h : texts ≠ []) : separator.intercalate (text :: texts) =
      text ++ separator ++ separator.intercalate texts := by
  obtain ⟨next, texts, rfl⟩ := List.exists_cons_of_ne_nil h
  exact String.intercalate_cons_cons

/-- Lines divide alike with line feeds between them and as they are gathered,
unless one before the last leaves something open. -/
theorem divides_lines_iff {lines : List String} {last : String}
    (hlast : trim last ≠ "") (hclosed : ∀ l ∈ lines, closes (trim l).toList = true)
    {ls : List Lexeme} :
    Divides ("\n".intercalate (lines ++ [last])).toList ls ↔
      Divides (" ".intercalate (trimmedLines (lines ++ [last]))).toList ls := by
  induction lines generalizing ls with
  | nil =>
      have hkept : trimmedLines [last] = [trim last] := by simp [trimmedLines, hlast]
      rw [List.nil_append, hkept, String.intercalate_singleton,
        String.intercalate_singleton, toList_trim, divides_trimChars_iff]
  | cons l lines ih =>
      rw [List.forall_mem_cons, toList_trim] at hclosed
      have hmore : trimmedLines (lines ++ [last]) ≠ [] := by
        simp [trimmedLines, hlast]
      have htext : ("\n".intercalate (l :: (lines ++ [last]))).toList =
          l.toList ++ '\n' :: ("\n".intercalate (lines ++ [last])).toList := by
        rw [intercalate_cons (by simp)]
        simp
      rw [List.cons_append, htext, divides_line_iff hclosed.1]
      by_cases hl : trim l = ""
      · have hkept : trimmedLines (l :: (lines ++ [last])) =
            trimmedLines (lines ++ [last]) := by simp [trimmedLines, hl]
        rw [hkept, ← ih hclosed.2, ← toList_trim, hl]
        simp [divides_nil_iff]
      · have hkept : trimmedLines (l :: (lines ++ [last])) =
            trim l :: trimmedLines (lines ++ [last]) := by simp [trimmedLines, hl]
        have hgathered : (" ".intercalate (trim l :: trimmedLines (lines ++ [last]))).toList =
            trimChars l.toList ++
              ' ' :: (" ".intercalate (trimmedLines (lines ++ [last]))).toList := by
          rw [intercalate_cons hmore]
          simp [toList_trim]
        rw [hkept, hgathered, divides_append_blank_iff (by decide) (.inl hclosed.1)]
        simp only [ih hclosed.2]

/-! ## What the prompt gathers -/

namespace Prompt

/-- What is pending once a line that is no command has been read. -/
def gathered (p : Prompt) (line : String) : String :=
  if (trim line).isEmpty then p.pending
  else if p.pending.isEmpty then trim line
  else p.pending ++ " " ++ trim line

/-- The script that a line completes, if it does. -/
def completed? (p : Prompt) (line : String) : Option String :=
  if p.pending.isEmpty && (trim line).startsWith "." then none
  else if (trim line).endsWith ";" then some (p.gathered line)
  else none

/-- The answer to a line that completes a script. -/
def ran (p : Prompt) (script : String) (keys : Enumerations) : Turn :=
  let result := p.session.executeScript script keys
  { prompt := { p with session := result.2, pending := "" }
    printed :=
      match result.1 with
      | .ok outcomes => outcomes.flatMap (printOutcome p.format)
      | .error e => [errLine ("Error: " ++ e.message)] }

theorem step_of_completed {stamp : String} {p : Prompt} {line script : String}
    (h : p.completed? line = some script) (keys : Enumerations) :
    p.step stamp line keys = p.ran script keys := by
  unfold completed? at h
  split at h
  · cases h
  next hcommand =>
  split at h
  · next hends =>
      cases h
      have hblank : (trim line).isEmpty = false := by
        rw [Bool.eq_false_iff, ne_eq, String.isEmpty_iff]
        intro hempty
        rw [hempty] at hends
        exact absurd hends (by decide)
      unfold step
      rw [if_neg hcommand]
      simp only [hblank, hends, gathered, ran, runScript, Bool.false_eq_true, if_false,
        if_true]
      cases (p.session.executeScript _ keys).1 <;> rfl
  · cases h

/-- A line that is no command and does not end with a semicolon is gathered. -/
theorem step_of_open {stamp : String} {p : Prompt} {line : String}
    (hcommand : (p.pending.isEmpty && (trim line).startsWith ".") = false)
    (hends : (trim line).endsWith ";" = false) (keys : Enumerations) :
    p.step stamp line keys = ⟨{ p with pending := p.gathered line }, [], none⟩ := by
  unfold step gathered
  simp only [hcommand, hends, Bool.false_eq_true, if_false]
  split <;> rfl

/-- The prompt after lines in turn. What line `i` runs is given `keys i`. -/
def afterLines (stamp : String) (p : Prompt) (lines : List String)
    (keys : Nat → Enumerations) : Prompt :=
  match lines with
  | [] => p
  | line :: rest =>
    (p.step stamp line (keys 0)).prompt.afterLines stamp rest fun i => keys (i + 1)

theorem afterLines_append_single (stamp : String) (p : Prompt) (lines : List String)
    (line : String) (keys : Nat → Enumerations) :
    p.afterLines stamp (lines ++ [line]) keys =
      ((p.afterLines stamp lines keys).step stamp line (keys lines.length)).prompt := by
  induction lines generalizing p keys with
  | nil => rfl
  | cons first rest ih => exact ih _ _

end Prompt

/-- The lines of one input: the first begins a statement, and none but the last
ends with a semicolon. -/
structure IsInput (lines : List String) (last : String) : Prop where
  begins : ∀ line ∈ (lines ++ [last]).head?,
    trim line ≠ "" ∧ (trim line).startsWith "." = false
  open_until : ∀ line ∈ lines, (trim line).endsWith ";" = false
  ends : (trim last).endsWith ";" = true

theorem endsWith_iff {text ending : String} :
    text.endsWith ending = true ↔ ending.toList <:+ text.toList := by
  rw [String.endsWith_eq_endsWith_toSlice, String.Slice.endsWith_string_iff]
  simp

theorem intercalate_append_single {texts : List String} {text : String}
    (h : texts ≠ []) : " ".intercalate (texts ++ [text]) =
      " ".intercalate texts ++ " " ++ text := by
  induction texts with
  | nil => exact absurd rfl h
  | cons first texts ih =>
      by_cases htexts : texts = []
      · subst htexts
        simp [String.intercalate_cons_cons]
      · rw [List.cons_append, intercalate_cons (by simp), ih htexts,
          intercalate_cons htexts]
        simp only [String.append_assoc]

theorem intercalate_trimmedLines_eq_empty_iff {lines : List String} :
    " ".intercalate (trimmedLines lines) = "" ↔ trimmedLines lines = [] := by
  cases h : trimmedLines lines with
  | nil => simp
  | cons line rest =>
      have hline : line ≠ "" := by
        have hmem : line ∈ trimmedLines lines := h ▸ List.mem_cons_self
        simpa using (List.mem_filter.mp hmem).2
      cases rest with
      | nil => simpa using hline
      | cons next rest => simp [String.intercalate_cons_cons]

namespace Prompt

/-- The lines that were gathered, as one text. -/
theorem gathered_eq {p : Prompt} {lines : List String} {line : String}
    (hp : p.pending = " ".intercalate (trimmedLines lines)) :
    p.gathered line = " ".intercalate (trimmedLines (lines ++ [line])) := by
  rw [gathered, hp, trimmedLines_append]
  by_cases hline : trim line = ""
  · simp [trimmedLines, hline]
  · have hkept : trimmedLines [line] = [trim line] := by simp [trimmedLines, hline]
    rw [hkept, if_neg (by simpa using hline)]
    by_cases hlines : trimmedLines lines = []
    · simp [hlines]
    · have hpending : ¬ (" ".intercalate (trimmedLines lines)).isEmpty = true := by
        rwa [String.isEmpty_iff, intercalate_trimmedLines_eq_empty_iff]
      rw [if_neg hpending, intercalate_append_single hlines]

/-- Before any line of an input the lines before it are pending, and the line is
no command. -/
theorem afterLines_eq (stamp : String) {p : Prompt} {lines : List String}
    {line : String} (hp : p.pending = "")
    (hbegins : ∀ l ∈ (lines ++ [line]).head?,
      trim l ≠ "" ∧ (trim l).startsWith "." = false)
    (hopen : ∀ l ∈ lines, (trim l).endsWith ";" = false)
    (keys : Nat → Enumerations) :
    p.afterLines stamp lines keys =
        { p with pending := " ".intercalate (trimmedLines lines) } ∧
      ((p.afterLines stamp lines keys).pending.isEmpty &&
        (trim line).startsWith ".") = false := by
  induction lines using List.reverseRecOn generalizing line with
  | nil =>
      have hnothing : " ".intercalate (trimmedLines []) = p.pending := hp.symm
      have hline := (hbegins line rfl).2
      exact ⟨by rw [hnothing]; rfl, by simp [hline]⟩
  | append_singleton lines l ih =>
      rw [List.forall_mem_append, List.forall_mem_singleton] at hopen
      have hhead : (lines ++ [l] ++ [line]).head? = (lines ++ [l]).head? := by simp
      rw [hhead] at hbegins
      obtain ⟨hbefore, hcommand⟩ := ih hbegins hopen.1
      have hstep : p.afterLines stamp (lines ++ [l]) keys =
          { p with pending := " ".intercalate (trimmedLines (lines ++ [l])) } := by
        rw [afterLines_append_single, step_of_open hcommand hopen.2,
          gathered_eq (by rw [hbefore]), hbefore]
      refine ⟨hstep, ?_⟩
      -- The first line of the input is not blank, so something is pending.
      obtain ⟨first, rest, hfirst⟩ : ∃ first rest, lines ++ [l] = first :: rest :=
        List.exists_cons_of_ne_nil (by simp)
      rw [hfirst] at hbegins
      have hkept : trimmedLines (lines ++ [l]) ≠ [] := by
        simp [hfirst, trimmedLines, (hbegins first rfl).1]
      have hpending : (" ".intercalate (trimmedLines (lines ++ [l]))).isEmpty = false := by
        rwa [Bool.eq_false_iff, ne_eq, String.isEmpty_iff,
          intercalate_trimmedLines_eq_empty_iff]
      rw [hstep, hpending, Bool.false_and]

/-- The last line of an input runs all of it as one script. -/
theorem step_last {lines : List String} {last : String} (h : IsInput lines last)
    (stamp : String) {p : Prompt} (hp : p.pending = "") (keys : Nat → Enumerations) :
    (p.afterLines stamp lines keys).step stamp last (keys lines.length) =
      p.ran (" ".intercalate (trimmedLines (lines ++ [last]))) (keys lines.length) := by
  obtain ⟨hbefore, hcommand⟩ := afterLines_eq stamp hp h.begins h.open_until keys
  have hcompleted : (p.afterLines stamp lines keys).completed? last =
      some (" ".intercalate (trimmedLines (lines ++ [last]))) := by
    rw [completed?, hcommand, h.ends, gathered_eq (by rw [hbefore])]
    rfl
  rw [step_of_completed hcompleted, hbefore]
  rfl

/-- **A statement may be typed over several lines.** Give a prompt with nothing
pending the lines of one input. If none of them but the last ends in a comment or
within quotes, each of them is gathered without an answer, up to the last one, at
which a script runs that has the tokens of the lines with line feeds between
them: both are refused by the scanner, or they differ in nothing but the places
of their tokens. So both come to the same outcomes and the same session, or both
are refused as they are read. -/
theorem lines_run_as_text {lines : List String} {last : String}
    (h : IsInput lines last) (hclosed : ∀ l ∈ lines, closes (trim l).toList = true)
    (stamp : String) {p : Prompt} (hp : p.pending = "") (keys : Nat → Enumerations) :
    let script := " ".intercalate (trimmedLines (lines ++ [last]))
    let text := "\n".intercalate (lines ++ [last])
    (∀ before line after, lines = before ++ line :: after →
      (p.afterLines stamp before keys).step stamp line (keys before.length) =
        ⟨{ p with pending := " ".intercalate (trimmedLines (before ++ [line])) }, [],
          none⟩) ∧
    (p.afterLines stamp lines keys).step stamp last (keys lines.length) =
      p.ran script (keys lines.length) ∧
    (tokenize script).toOption.map (·.map Token.content) =
      (tokenize text).toOption.map (·.map Token.content) ∧
    ∀ keys, p.session.executeScript script keys = p.session.executeScript text keys ∨
      ∃ e e', p.session.executeScript script keys = (.error (.parse e), p.session) ∧
        p.session.executeScript text keys = (.error (.parse e'), p.session) := by
  intro script text
  have hlast : trim last ≠ "" := by
    intro hempty
    have hends := h.ends
    rw [hempty] at hends
    exact absurd hends (by decide)
  have hdivides : ∀ ls, Divides script.toList ls ↔ Divides text.toList ls :=
    fun ls => (divides_lines_iff hlast hclosed).symm
  refine ⟨?_, step_last h stamp hp keys, content_eq_of_divides_iff hdivides,
    fun keys => p.session.executeScript_congr keys hdivides⟩
  · rintro before line after rfl
    have hopen := h.open_until
    rw [List.forall_mem_append, List.forall_mem_cons] at hopen
    have hbegins : ∀ l ∈ (before ++ [line]).head?,
        trim l ≠ "" ∧ (trim l).startsWith "." = false := by
      intro l hl
      refine h.begins l ?_
      simpa [List.head?_append] using hl
    obtain ⟨hbefore, hcommand⟩ := afterLines_eq stamp hp hbegins hopen.1 keys
    rw [step_of_open hcommand hopen.2.1, gathered_eq (by rw [hbefore]), hbefore]

/-- A table over four lines, one of them blank. -/
theorem lines_run_as_text_create :
    let lines := ["CREATE TABLE t (", "", "  a INT"]
    let p : Prompt := { session := { catalog := .empty }, format := .table }
    let script := "CREATE TABLE t ( a INT );"
    IsInput lines ");" ∧ (∀ l ∈ lines, closes (trim l).toList = true) ∧
      (p.afterLines "" lines fun _ => .listed).step "" ");" .listed =
        p.ran script .listed ∧
      (p.ran script .listed).printed = [outLine "Table 't' created"] ∧
      (tokenize script).toOption.map (·.map Token.content) =
        (tokenize "CREATE TABLE t (\n\n  a INT\n);").toOption.map
          (·.map Token.content) := by
  intro lines p script
  have hinput : IsInput lines ");" := {
    begins := by simp only [String.startsWith_string_eq_false_iff]; decide
    open_until := by simp only [← Bool.not_eq_true, endsWith_iff]; decide
    ends := by simp only [endsWith_iff]; decide }
  have hclosed : ∀ l ∈ lines, closes (trim l).toList = true := by decide
  obtain ⟨-, hran, htokens, -⟩ := lines_run_as_text hinput hclosed "" (p := p) rfl
    fun _ => .listed
  have hprinted : (p.ran script .listed).printed = [outLine "Table 't' created"] := by cbv
  exact ⟨hinput, hclosed, hran, hprinted, htokens⟩

/-- **A comment runs on into the next line.** Gathered, the line feed that ends a
comment is gone, so what follows it is lost. As a text the same lines create a
table. -/
theorem lines_differ_from_text :
    let lines := ["CREATE TABLE t (a INT -- the key"]
    let p : Prompt := { session := { catalog := .empty }, format := .table }
    let script := "CREATE TABLE t (a INT -- the key );"
    let text := "CREATE TABLE t (a INT -- the key\n);"
    IsInput lines ");" ∧
      (p.afterLines "" lines fun _ => .listed).step "" ");" .listed =
        p.ran script .listed ∧
      "\n".intercalate (lines ++ [");"]) = text ∧
      (tokenize script).toOption.map (·.map Token.content) ≠
        (tokenize text).toOption.map (·.map Token.content) ∧
      p.session.executeScript script =
        (.error (.parse (.missingMark .rightParen "")), p.session) ∧
      (p.session.executeScript text).1 = .ok [.created "t"] := by
  intro lines p script text
  have hinput : IsInput lines ");" := {
    begins := by simp only [String.startsWith_string_eq_false_iff]; decide
    open_until := by simp only [← Bool.not_eq_true, endsWith_iff]; decide
    ends := by simp only [endsWith_iff]; decide }
  have hrefused : Statement.ofScript script = .error (.missingMark .rightParen "") := by cbv
  have hread : Statement.ofScript text =
      .ok [.createTable ⟨"t", [⟨"a", .integer, true⟩]⟩] := by cbv
  have hcount : (tokenize script).toOption.map List.length = some 7 := by cbv
  have hcount' : (tokenize text).toOption.map List.length = some 9 := by cbv
  refine ⟨hinput, step_last hinput "" rfl fun _ => .listed, rfl, fun hsame => ?_, ?_, ?_⟩
  · have hlengths := congrArg (Option.map List.length) hsame
    simp only [Option.map_map, Function.comp_def, List.length_map] at hlengths
    rw [hcount, hcount'] at hlengths
    cases hlengths
  · rw [Session.executeScript, hrefused]
  · rw [Session.executeScript, hread]
    rfl

end Prompt

end Shell

end QueryBind
