import QueryBind.Proofs.Sql.Longest

/-!
# Texts and what they are scanned into

A text is scanned from left to right, and nothing of it is left over: blank
characters, comments, and at every other place the lexeme that the rest begins
with. Nothing is left open by that, so a text is scanned in one way or in none. It
has tokens exactly in the first case, one for each lexeme and one at the end.
-/

namespace QueryBind.Sql

open QueryBind.Text

/-! ## Scanning a text -/

/-- A text is blank characters, comments and lexemes from its front to its end.
A comment runs through the next line feed, or to the end of the text if there is
none. Wherever no comment begins, the foremost lexeme is taken. -/
inductive Scans : List Char → List Lexeme → Prop where
  | done : Scans [] []
  | blank {c text ls} : isBlankChar c = true → Scans text ls → Scans (c :: text) ls
  | comment {line text ls} : '\n' ∉ line → Scans text ls →
      Scans ('-' :: '-' :: (line ++ '\n' :: text)) ls
  | lastComment {line} : '\n' ∉ line → Scans ('-' :: '-' :: line) []
  | lexeme {text l rest ls} : ¬ ['-', '-'] <+: text → Foremost text l rest →
      Scans rest ls → Scans text (l :: ls)

theorem startsComment_iff {text : List Char} :
    startsComment text = true ↔ ['-', '-'] <+: text := by
  unfold startsComment
  split
  · simp
  · next h =>
      constructor
      · rintro ⟨⟩
      · rintro ⟨rest, rfl⟩
        exact absurd rfl (h rest)

theorem exists_of_mem_spellings {spelling : List Char} {m : Mark}
    (h : (spelling, m) ∈ spellings) :
    ∃ c more, spelling = c :: more ∧ isBlankChar c = false := by
  have hall : ∀ entry ∈ spellings, entry.1.head?.any (!isBlankChar ·) = true := by
    simp [spellings, isBlankChar]
  obtain ⟨c, hc, hblank⟩ := (Option.any_eq_true ..).mp (hall _ h)
  obtain ⟨more, hmore⟩ := List.head?_eq_some_iff.mp hc
  exact ⟨c, more, hmore, by simpa using hblank⟩

/-- No lexeme begins with a blank character. -/
theorem Foremost.not_blank {c : Char} {cs rest : List Char} {l : Lexeme}
    (h : Foremost (c :: cs) l rest) : isBlankChar c = false := by
  rcases h with ⟨htext, hlongest⟩ | ⟨htext, hlongest⟩ | ⟨htext, -, -⟩ | ⟨htext, -, -⟩ |
    ⟨htext, hspelled, -⟩
  · rcases hlongest.kind with ⟨hstart, -⟩
    cases htext
    exact not_blank_of_isWordChar (isWordChar_of_isWordStart hstart)
  · obtain ⟨c, ds, rfl, hc⟩ := hlongest.kind.exists_digit
    cases htext
    exact not_blank_of_isWordChar (by simp [isWordChar, Char.isAlphanum, hc])
  · cases htext
    decide
  · cases htext
    decide
  · obtain ⟨d, more, rfl, hd⟩ := exists_of_mem_spellings hspelled
    cases htext
    exact hd

theorem Scans.divides {text : List Char} {ls : List Lexeme} (h : Scans text ls) :
    Divides text ls := by
  induction h with
  | done => exact .nil
  | blank hblank _ ih => exact .blank hblank ih
  | comment hline _ ih => exact ih.commentLine hline
  | @lastComment line hline =>
      refine .comment (by decide) rfl ?_
      have hafter := afterLine_comment hline (stops_nil _)
      rw [List.append_nil] at hafter
      rw [hafter]
      exact .nil
  | lexeme hcomment hforemost _ ih =>
      obtain ⟨c, cs, rfl, hfirst⟩ := first_of_foremost hforemost
      refine .lexeme hforemost.not_blank ?_ hfirst ih
      rw [← startsComment_iff] at hcomment
      simpa using hcomment

theorem Scans.of_blank {c : Char} {text : List Char} {ls : List Lexeme}
    (hc : isBlankChar c = true) (h : Scans (c :: text) ls) : Scans text ls := by
  rcases h with _ | ⟨-, h⟩ | _ | _ | ⟨-, hforemost, -⟩
  · exact h
  · exact absurd hc (by decide)
  · exact absurd hc (by decide)
  · rw [hforemost.not_blank] at hc
    cases hc

theorem Divides.scans {text : List Char} {ls : List Lexeme} (h : Divides text ls) :
    Scans text ls := by
  induction h with
  | nil => exact .done
  | blank hblank _ ih => exact .blank hblank ih
  | @comment c cs ls _ hcomment hrest ih =>
      obtain ⟨comment, hcons⟩ := startsComment_iff.mp hcomment
      rw [← hcons] at hrest ih ⊢
      show Scans ('-' :: '-' :: comment) ls
      by_cases hbreak : '\n' ∈ comment
      · -- The line feed is left standing behind the comment, as a blank character.
        obtain ⟨line, text, rfl, hline⟩ := List.eq_append_cons_of_mem hbreak
        have hafter := afterLine_comment hline
          (stops_cons.mpr (by decide) : Stops (· != '\n') ('\n' :: text))
        change Scans (afterLine ('-' :: '-' :: (line ++ '\n' :: text))) ls at ih
        rw [hafter] at ih
        exact .comment hline (ih.of_blank isBlankChar_lineFeed)
      · have hafter := afterLine_comment hbreak (stops_nil _)
        rw [List.append_nil] at hafter
        change Divides (afterLine ('-' :: '-' :: comment)) ls at hrest
        rw [hafter, divides_nil_iff] at hrest
        rw [hrest]
        exact .lastComment hbreak
  | @lexeme c cs l rest ls _ hcomment hfirst _ ih =>
      refine .lexeme ?_ (first_eq_ok_iff.mp hfirst) ih
      rw [← startsComment_iff, hcomment]
      simp

theorem scans_iff_divides {text : List Char} {ls : List Lexeme} :
    Scans text ls ↔ Divides text ls :=
  ⟨Scans.divides, Divides.scans⟩

theorem Divides.unique {text : List Char} {ls ls' : List Lexeme}
    (h : Divides text ls) (h' : Divides text ls') : ls = ls' := by
  induction h generalizing ls' with
  | nil => exact (divides_nil_iff.mp h').symm
  | blank hblank _ ih => exact ih ((divides_blank_cons_iff hblank).mp h')
  | comment hblank hcomment _ ih =>
      rcases h' with _ | ⟨hblank', -⟩ | ⟨-, -, hrest⟩ | ⟨-, hnot, -, -⟩
      · rw [hblank] at hblank'
        cases hblank'
      · exact ih hrest
      · rw [hcomment] at hnot
        cases hnot
  | lexeme hblank hcomment hfirst _ ih =>
      rcases h' with _ | ⟨hblank', -⟩ | ⟨-, hcomment', -⟩ | ⟨-, -, hfirst', hrest⟩
      · rw [hblank] at hblank'
        cases hblank'
      · rw [hcomment] at hcomment'
        cases hcomment'
      · rw [hfirst] at hfirst'
        cases hfirst'
        rw [ih hrest]

/-! ## Tokens -/

/-- What the token of a lexeme shows. A word is a keyword exactly if its letters,
in upper case, spell one. What stands between quotes is shown without them and
with every quote once, and all else as it is written. -/
inductive Shows : Lexeme → TokenKind → String → Prop where
  | keyword {letters k} : k.spelling.toList = letters.map Char.toUpper →
      Shows (.word letters) (.keyword k) (String.ofList letters)
  | identifier {letters} : (∀ k : Keyword, k.spelling.toList ≠ letters.map Char.toUpper) →
      Shows (.word letters) (.identifier (String.ofList letters)) (String.ofList letters)
  | numeral {digits} :
      Shows (.numeral digits) (.numeral (String.ofList digits)) (String.ofList digits)
  | string {content} :
      Shows (.string content) (.string (String.ofList content)) (String.ofList content)
  | name {content} :
      Shows (.name content) (.identifier (String.ofList content)) (String.ofList content)
  | mark {m spelling} : Shows (.mark m spelling) (.mark m) (String.ofList spelling)

theorem shows_kind_tokenText (l : Lexeme) : Shows l l.kind l.tokenText := by
  rcases l with letters | digits | content | content | ⟨m, spelling⟩
  · simp only [Lexeme.kind, Lexeme.tokenText]
    cases hword : Keyword.ofWord? letters with
    | some k =>
        have hspelling := List.find?_some hword
        exact .keyword (by simpa using hspelling)
    | none =>
        refine .identifier fun k => ?_
        have hnot := List.find?_eq_none.mp hword k k.mem_all
        simpa using hnot
  · exact .numeral
  · exact .string
  · exact .name
  · exact .mark

theorem Shows.kind_ne_finish {l : Lexeme} {kind : TokenKind} {text : String}
    (h : Shows l kind text) : kind ≠ .finish := by
  rcases h with _ | _ | _ | _ | _ | _ <;> simp

theorem forall₂_shows {ls : List Lexeme} {tokens : List Token}
    (h : Alike (tokensOf ls) tokens) :
    List.Forall₂ (fun l t => Shows l t.kind t.text) ls tokens := by
  have hcontents : List.Forall₂ (· = ·) ((tokensOf ls).map Token.content)
      (tokens.map Token.content) := by
    rw [List.forall₂_eq_eq_eq]
    exact h
  rw [tokensOf, List.map_map, List.forall₂_map_left_iff,
    List.forall₂_map_right_iff] at hcontents
  apply hcontents.imp
  intro l t hsame
  have hkind : l.kind = t.kind := congrArg Prod.fst hsame
  have htext : l.tokenText = t.text := congrArg Prod.snd hsame
  rw [← hkind, ← htext]
  exact shows_kind_tokenText l

/-- **Tokens are what a text is scanned into.** A text has tokens exactly if it
can be scanned to its end, and it can be scanned in one way only. The tokens then
show the lexemes one by one, and behind them stands the one token that ends
every list. -/
theorem tokenize_iff_scans (text : String) :
    ((∃ tokens, tokenize text = .ok tokens) ↔ ∃ ls, Scans text.toList ls) ∧
    (∀ ls ls', Scans text.toList ls → Scans text.toList ls' → ls = ls') ∧
    ∀ tokens ls, tokenize text = .ok tokens → Scans text.toList ls →
      ∃ body pos, tokens = body ++ [⟨.finish, "", pos⟩] ∧
        List.Forall₂ (fun l t => Shows l t.kind t.text) ls body ∧
        ∀ t ∈ body, t.kind ≠ .finish := by
  simp only [scans_iff_divides]
  refine ⟨⟨?_, ?_⟩, fun ls ls' h h' => h.unique h', ?_⟩
  · rintro ⟨tokens, htokens⟩
    obtain ⟨ls, -, -, hdivides, -⟩ := divides_of_scan htokens
    exact ⟨ls, hdivides⟩
  · rintro ⟨ls, hdivides⟩
    obtain ⟨body, q, hscan, -⟩ := hdivides.exists_scan Position.start
    exact ⟨_, hscan⟩
  · intro tokens ls htokens hdivides
    obtain ⟨ls', body, q, hdivides', halike, rfl⟩ := divides_of_scan htokens
    obtain rfl := hdivides.unique hdivides'
    have hshows := forall₂_shows halike
    refine ⟨body, q, rfl, hshows, fun t ht => ?_⟩
    obtain ⟨l, -, hshown⟩ := exists_of_forall₂_right hshows ht
    exact hshown.kind_ne_finish

end QueryBind.Sql
