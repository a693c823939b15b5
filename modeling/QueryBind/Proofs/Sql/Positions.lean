import QueryBind.Proofs.Sql.Scanning

/-!
# Where tokens stand

A place in a text is known from what stands before it: a line for each line feed,
and a column for each character behind the last of them. The scanner does not look
back but carries the place along, lexeme by lexeme. What it carries is the place in
the text, up to one thing: the line feeds within a quoted name are counted as
columns, though those within a string are counted as lines. So a token, the end of
a text or a fault is placed right exactly if no name before it holds a line feed.
-/

namespace QueryBind.Sql

open QueryBind.Text

/-! ## Places in a text -/

namespace Position

/-- The place behind a text. -/
def behind (before : List Char) : Position :=
  ⟨1 + before.count '\n', 1 + (before.rtakeWhile (· != '\n')).length⟩

theorem behind_concat (before : List Char) (c : Char) :
    behind (before ++ [c]) = (behind before).next c := by
  by_cases hc : c = '\n'
  · subst hc
    rw [behind, List.rtakeWhile_concat_neg _ _ _ (by simp), List.count_append]
    rfl
  · have hcount : [c].count '\n' = 0 := by simp [hc]
    rw [behind, List.rtakeWhile_concat_pos _ _ _ (by simpa using hc), List.count_append, hcount]
    simp [behind, next, hc]
    omega

/-- The place behind a text is what is carried along it. -/
theorem behind_append (before cs : List Char) :
    behind (before ++ cs) = (behind before).after cs := by
  induction cs generalizing before with
  | nil => rw [List.append_nil]; rfl
  | cons c cs ih =>
      rw [List.append_cons, ih, behind_concat]
      rfl

theorem line_next (p : Position) (c : Char) :
    (p.next c).line = p.line + if c == '\n' then 1 else 0 := by
  by_cases hc : c = '\n'
  · simp [next, hc]
  · simp [next, hc]

theorem line_after (p : Position) (cs : List Char) :
    (p.after cs).line = p.line + cs.count '\n' := by
  induction cs generalizing p with
  | nil => rfl
  | cons c cs ih =>
      show ((p.next c).after cs).line = _
      rw [ih, line_next, List.count_cons]
      omega

/-- Without a line feed a text only takes columns. -/
theorem after_of_not_mem {cs : List Char} (p : Position) (h : '\n' ∉ cs) :
    p.after cs = p.shift cs.length := by
  induction cs generalizing p with
  | nil => rfl
  | cons c cs ih =>
      rw [List.mem_cons, not_or] at h
      show (p.next c).after cs = _
      rw [ih _ h.2, next, if_neg (Ne.symm h.1)]
      simp [shift]
      omega

end Position

/-! ## How far a text is scanned -/

/-- A text has been scanned so far that some lexemes are behind and the rest is
ahead. Blank characters, comments and lexemes have been passed one by one, a
comment wherever one begins and else the foremost lexeme. -/
inductive Scanned (text : List Char) : List Char → List Lexeme → List Char → Prop where
  | start : Scanned text [] [] text
  | blank {before ls c ahead} : Scanned text before ls (c :: ahead) →
      isBlankChar c = true → Scanned text (before ++ [c]) ls ahead
  | comment {before ls line ahead} :
      Scanned text before ls ('-' :: '-' :: (line ++ ahead)) → '\n' ∉ line →
      Stops (· != '\n') ahead → Scanned text (before ++ '-' :: '-' :: line) ls ahead
  | lexeme {before ls ahead l rest} : Scanned text before ls ahead →
      ¬ ['-', '-'] <+: ahead → Foremost ahead l rest →
      Scanned text (before ++ l.written) (ls ++ [l]) rest

theorem Foremost.eq_written_append {text rest : List Char} {l : Lexeme}
    (h : Foremost text l rest) : text = l.written ++ rest := by
  obtain ⟨c, cs, rfl, hfirst⟩ := first_of_foremost h
  exact Lexeme.eq_written_append_of_first hfirst

/-- What is behind and what is ahead make up the text. -/
theorem Scanned.eq_append {text before ahead : List Char} {ls : List Lexeme}
    (h : Scanned text before ls ahead) : text = before ++ ahead := by
  induction h with
  | start => rfl
  | blank _ _ ih => simpa using ih
  | comment _ _ _ ih => simpa using ih
  | lexeme _ _ hforemost ih =>
      rw [ih, hforemost.eq_written_append, List.append_assoc]

/-- What is ahead begins with what a token shows, or the token is the last and
nothing is ahead. -/
inductive Begins : List Char → Token → Prop where
  | lexeme {ahead l rest t} : ¬ ['-', '-'] <+: ahead → Foremost ahead l rest →
      Shows l t.kind t.text → Begins ahead t
  | finish {t} : t.kind = .finish → Begins [] t

/-! ## The place that is carried along -/

/-- The line feeds of a lexeme that are not counted as lines. -/
def Lexeme.lostLines : Lexeme → Nat
  | name content => content.count '\n'
  | word _ | numeral _ | string _ | mark _ _ => 0

/-- The line feeds that have not been counted as lines. -/
def lostLines (ls : List Lexeme) : Nat := (ls.map Lexeme.lostLines).sum

theorem lostLines_concat (ls : List Lexeme) (l : Lexeme) :
    lostLines (ls ++ [l]) = lostLines ls + l.lostLines := by
  simp [lostLines]

theorem lostLines_eq_zero_iff {ls : List Lexeme} :
    lostLines ls = 0 ↔ ∀ content, Lexeme.name content ∈ ls → '\n' ∉ content := by
  rw [lostLines, List.sum_eq_zero_iff]
  simp only [List.forall_mem_map]
  constructor
  · intro h content hmem
    exact List.count_eq_zero.mp (h _ hmem)
  · intro h l hl
    cases l with
    | name content => exact List.count_eq_zero.mpr (h content hl)
    | word _ => rfl
    | numeral _ => rfl
    | string _ => rfl
    | mark _ _ => rfl

/-- A place is carried along: its line is the one in the text, less the lines lost,
and if none was lost so is its column. -/
structure Carried (before : List Char) (ls : List Lexeme) (pos : Position) : Prop where
  line : pos.line + lostLines ls = (Position.behind before).line
  eq_behind : lostLines ls = 0 → pos = Position.behind before

theorem Carried.start : Carried [] [] Position.start where
  line := rfl
  eq_behind := fun _ => rfl

theorem Carried.append {before : List Char} {ls : List Lexeme} {pos : Position}
    (h : Carried before ls pos) (cs : List Char) :
    Carried (before ++ cs) ls (pos.after cs) where
  line := by
    have hline := h.line
    rw [Position.behind_append, Position.line_after, Position.line_after]
    omega
  eq_behind := by
    intro hlost
    rw [Position.behind_append, h.eq_behind hlost]

/-- A quote written twice is no line feed more. -/
theorem count_lineFeed_written_name (content : List Char) :
    (Lexeme.name content).written.count '\n' = content.count '\n' := by
  have hcount : (doubleQuotes '"' content).count '\n' = content.count '\n' := by
    induction content with
    | nil => rfl
    | cons c content ih =>
        by_cases hc : c = '"'
        · simp [hc, doubleQuotes_cons_self, ih]
        · rw [doubleQuotes_cons_of_ne content hc, List.count_cons, List.count_cons, ih]
  simp [Lexeme.written, writeQuoted, writeBody, hcount]

/-- A lexeme takes a carried place to a carried place. -/
theorem Carried.lexeme {before : List Char} {ls : List Lexeme} {pos : Position}
    (h : Carried before ls pos) (l : Lexeme) :
    Carried (before ++ l.written) (ls ++ [l]) (l.past pos) := by
  have hcounted : l.lostLines = 0 → l.past pos = pos.after l.written →
      Carried (before ++ l.written) (ls ++ [l]) (l.past pos) := by
    intro hlost hpast
    have hsame : lostLines (ls ++ [l]) = lostLines ls := by
      rw [lostLines_concat, hlost, Nat.add_zero]
    rw [hpast]
    exact ⟨hsame ▸ (h.append l.written).line, hsame ▸ (h.append l.written).eq_behind⟩
  cases l with
  | word letters => exact hcounted rfl rfl
  | numeral digits => exact hcounted rfl rfl
  | string content => exact hcounted rfl rfl
  | mark m spelling => exact hcounted rfl rfl
  | name content =>
      have hcount := count_lineFeed_written_name content
      by_cases hbreak : '\n' ∈ content
      · have hpos : 0 < content.count '\n' := List.count_pos_iff.mpr hbreak
        have hlost : lostLines (ls ++ [.name content]) = lostLines ls + content.count '\n' :=
          lostLines_concat ls _
        constructor
        · have hline := h.line
          rw [Position.behind_append, Position.line_after, hcount, hlost]
          show pos.line + _ = _
          omega
        · intro hnone
          omega
      · have hzero : content.count '\n' = 0 := List.count_eq_zero.mpr hbreak
        refine hcounted hzero ?_
        rw [hzero, List.count_eq_zero] at hcount
        exact (Position.after_of_not_mem pos hcount).symm

/-- The place carried along is the one in the text exactly if no line was lost. -/
theorem Carried.eq_behind_iff {before : List Char} {ls : List Lexeme} {pos : Position}
    (h : Carried before ls pos) :
    pos = Position.behind before ↔
      ∀ content, Lexeme.name content ∈ ls → '\n' ∉ content := by
  rw [← lostLines_eq_zero_iff]
  constructor
  · intro heq
    have hline := h.line
    rw [heq] at hline
    omega
  · exact h.eq_behind

/-! ## Scanning to the end -/

theorem exists_line_of_startsComment {cs : List Char} (h : startsComment cs = true) :
    ∃ line ahead, cs = '-' :: '-' :: (line ++ ahead) ∧ '\n' ∉ line ∧
      Stops (· != '\n') ahead ∧ restOfLine cs = '-' :: '-' :: line ∧
      afterLine cs = ahead := by
  obtain ⟨comment, rfl⟩ := startsComment_iff.mp h
  refine ⟨restOfLine comment, afterLine comment, ?_, ?_, stops_dropWhile _ _, ?_, ?_⟩
  · show _ = '-' :: '-' :: _
    rw [restOfLine, afterLine, List.takeWhile_append_dropWhile]
    rfl
  · intro hmem
    have := List.mem_takeWhile_imp hmem
    simp at this
  · simp [restOfLine]
  · simp [afterLine]

theorem Scanned.pastComment {text before cs : List Char} {ls : List Lexeme}
    (h : Scanned text before ls cs) (hcomment : startsComment cs = true) :
    Scanned text (before ++ restOfLine cs) ls (afterLine cs) := by
  obtain ⟨line, ahead, hcs, hline, hstops, hrest, hafter⟩ := exists_line_of_startsComment hcomment
  rw [hrest, hafter]
  exact .comment (hcs ▸ h) hline hstops

/-- Every token stands where the scanning had come to what the token shows. -/
theorem Scanned.tokens {text before ahead : List Char} {ls : List Lexeme}
    {pos : Position} {tokens : List Token} (hscanned : Scanned text before ls ahead)
    (hcarried : Carried before ls pos) (h : scan pos ahead = .ok tokens) :
    ∀ done t more, tokens = done ++ t :: more → ∃ before' new ahead',
      Scanned text before' (ls ++ new) ahead' ∧
      List.Forall₂ (fun l t => Shows l t.kind t.text) new done ∧
      Begins ahead' t ∧ Carried before' (ls ++ new) t.pos := by
  fun_induction scan pos ahead generalizing before ls tokens with
  | case1 pos =>
      cases h
      intro done t more hsplit
      rcases List.cons_eq_append_iff.mp hsplit with ⟨rfl, heq⟩ | ⟨done', rfl, hsplit'⟩
      · cases heq
        exact ⟨before, [], [], by rwa [List.append_nil], .nil, .finish rfl,
          by rwa [List.append_nil]⟩
      · simp at hsplit'
  | case2 pos c cs hblank ih => exact ih (hscanned.blank hblank) (hcarried.append [c]) h
  | case3 pos c cs hblank hcomment ih =>
      exact ih (hscanned.pastComment hcomment) (hcarried.append _) h
  | case4 => cases h
  | case5 pos c cs hblank hcomment l rest hfirst ih =>
      obtain ⟨tokens', hscan, rfl⟩ := map_eq_ok_iff.mp h
      have hforemost := first_eq_ok_iff.mp hfirst
      have hno : ¬ ['-', '-'] <+: c :: cs := by
        rwa [← startsComment_iff]
      intro done t more hsplit
      rcases List.cons_eq_append_iff.mp hsplit with ⟨rfl, heq⟩ | ⟨done', rfl, hsplit'⟩
      · cases heq
        exact ⟨before, [], c :: cs, by rwa [List.append_nil], .nil,
          .lexeme hno hforemost (shows_kind_tokenText l), by rwa [List.append_nil]⟩
      · obtain ⟨before', new, ahead', hscanned', hshows, hbegins, hcarried'⟩ :=
          ih (hscanned.lexeme hno hforemost) (hcarried.lexeme l) hscan done' t more hsplit'
        rw [List.append_assoc] at hscanned' hcarried'
        exact ⟨before', l :: new, ahead', hscanned', .cons (shows_kind_tokenText l) hshows,
          hbegins, hcarried'⟩

/-- Something is ahead, but nothing begins there. -/
structure Stuck (ahead : List Char) : Prop where
  ne_nil : ahead ≠ []
  not_blank : ∀ c ∈ ahead.head?, isBlankChar c = false
  not_comment : ¬ ['-', '-'] <+: ahead
  not_lexeme : ∀ l rest, ¬ Foremost ahead l rest

/-- A text that is refused has been scanned up to the fault. -/
theorem Scanned.fault {text before ahead : List Char} {ls : List Lexeme}
    {pos : Position} {e : ParseError} (hscanned : Scanned text before ls ahead)
    (hcarried : Carried before ls pos) (h : scan pos ahead = .error e) :
    ∃ before' ls' ahead' fault q, e = .lexical fault q ∧ Scanned text before' ls' ahead' ∧
      Stuck ahead' ∧ Carried before' ls' q := by
  fun_induction scan pos ahead generalizing before ls with
  | case1 => cases h
  | case2 pos c cs hblank ih => exact ih (hscanned.blank hblank) (hcarried.append [c]) h
  | case3 pos c cs hblank hcomment ih =>
      exact ih (hscanned.pastComment hcomment) (hcarried.append _) h
  | case4 pos c cs hblank hcomment fault hfirst =>
      cases h
      refine ⟨before, ls, c :: cs, fault, pos, rfl, hscanned, ?_, hcarried⟩
      constructor
      · exact List.cons_ne_nil c cs
      · simpa using hblank
      · rwa [← startsComment_iff]
      · intro l rest hforemost
        have hok := first_eq_ok_iff.mpr hforemost
        rw [hfirst] at hok
        cases hok
  | case5 pos c cs hblank hcomment l rest hfirst ih =>
      have hscan : scan (l.past pos) rest = .error e := by
        cases hrest : scan (l.past pos) rest with
        | ok tokens => rw [hrest] at h; cases h
        | error e' => rw [hrest] at h; cases h; rfl
      refine ih (hscanned.lexeme ?_ (first_eq_ok_iff.mp hfirst)) (hcarried.lexeme l) hscan
      rwa [← startsComment_iff]

theorem ParseError.message_lexical (fault : LexicalFault) (pos : Position) :
    ∃ words, (ParseError.lexical fault pos).message = words ++ pos.text := by
  cases fault with
  | unclosedString => exact ⟨_, rfl⟩
  | unclosedName => exact ⟨_, rfl⟩
  | loneBang => exact ⟨_, rfl⟩
  | strayCharacter c => exact ⟨_, rfl⟩

/-- **Where tokens stand.** Take any token of a text, the last included. The text has
been scanned into the lexemes that the tokens before it show, and what is ahead
begins with what it shows itself. Its place is the one behind all that was scanned
exactly if no quoted name among those lexemes holds a line feed; its line is short
of the true one by the line feeds in them. The same goes for the place that the
message names where a text is refused. -/
theorem tokenize_places (text : String) :
    (∀ tokens, tokenize text = .ok tokens → ∀ done t more, tokens = done ++ t :: more →
      ∃ before ls ahead, text.toList = before ++ ahead ∧
        Scanned text.toList before ls ahead ∧
        List.Forall₂ (fun l t => Shows l t.kind t.text) ls done ∧ Begins ahead t ∧
        t.pos.line + lostLines ls = (Position.behind before).line ∧
        (t.pos = Position.behind before ↔
          ∀ content, Lexeme.name content ∈ ls → '\n' ∉ content)) ∧
    ∀ e, tokenize text = .error e → ∃ before ls ahead words pos,
      text.toList = before ++ ahead ∧ Scanned text.toList before ls ahead ∧ Stuck ahead ∧
        e.message = words ++ pos.text ∧
        pos.line + lostLines ls = (Position.behind before).line ∧
        (pos = Position.behind before ↔
          ∀ content, Lexeme.name content ∈ ls → '\n' ∉ content) := by
  constructor
  · intro tokens h done t more hsplit
    obtain ⟨before, ls, ahead, hscanned, hshows, hbegins, hcarried⟩ :=
      Scanned.start.tokens Carried.start h done t more hsplit
    exact ⟨before, ls, ahead, hscanned.eq_append, hscanned, hshows, hbegins, hcarried.line,
      hcarried.eq_behind_iff⟩
  · intro e h
    obtain ⟨before, ls, ahead, fault, pos, rfl, hscanned, hstuck, hcarried⟩ :=
      Scanned.start.fault Carried.start h
    obtain ⟨words, hmessage⟩ := ParseError.message_lexical fault pos
    exact ⟨before, ls, ahead, words, pos, hscanned.eq_append, hscanned, hstuck, hmessage,
      hcarried.line, hcarried.eq_behind_iff⟩

/-- **A line feed within a quoted name is taken for a column.** What stands behind
the name is in the second line, and behind a string it would be placed there. -/
theorem tokenize_misplaces :
    tokenize "\"a\nb\" c" =
        .ok [⟨.identifier "a\nb", "a\nb", ⟨1, 1⟩⟩, ⟨.identifier "c", "c", ⟨1, 7⟩⟩,
          ⟨.finish, "", ⟨1, 8⟩⟩] ∧
      Position.behind "\"a\nb\" ".toList = ⟨2, 4⟩ ∧
      tokenize "'a\nb' c" =
        .ok [⟨.string "a\nb", "a\nb", ⟨1, 1⟩⟩, ⟨.identifier "c", "c", ⟨2, 4⟩⟩,
          ⟨.finish, "", ⟨2, 5⟩⟩] := by
  refine ⟨?_, ?_, ?_⟩
  · cbv
  · cbv
  · cbv

end QueryBind.Sql
