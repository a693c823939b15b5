import QueryBind.Proofs.Sql.Scanning
import QueryBind.Proofs.Value.Numbers

/-!
# Tokens written out

What a token stands for can be written down: a name between double quotes, a
string between single ones, a numeral as it is, a keyword in letters of either
case, a mark by one of its spellings. Each of these pieces is one lexeme from end
to end and leaves nothing open, so a blank keeps it apart from whatever stands
behind it. Reading what was written therefore gives the tokens back, and with
them the tokens of any text that has some.
-/

namespace QueryBind.Sql

open QueryBind.Text

/-! ## What the tokens of a text stand for -/

/-- What the tokens of a text stand for, in order. -/
def kindsOf (text : String) : Except ParseError (List TokenKind) :=
  (tokenize text).map (List.map Token.kind)

theorem map_kind_tokensOf (ls : List Lexeme) :
    (tokensOf ls).map Token.kind = ls.map Lexeme.kind := by
  simp [tokensOf, Lexeme.token]

theorem Alike.map_kind {ts us : List Token} (h : Alike ts us) :
    ts.map Token.kind = us.map Token.kind := by
  have hkinds := congrArg (List.map Prod.fst) h
  simpa [Token.content, Function.comp_def] using hkinds

theorem kindsOf_eq_ok_iff {text : String} {kinds : List TokenKind} :
    kindsOf text = .ok kinds ↔
      ∃ ls, Divides text.toList ls ∧ kinds = ls.map Lexeme.kind ++ [.finish] := by
  have hkinds : ∀ {ls : List Lexeme} {body : List Token} {q : Position},
      Alike (tokensOf ls) body →
      (body ++ [(⟨.finish, "", q⟩ : Token)]).map Token.kind =
        ls.map Lexeme.kind ++ [.finish] := by
    intro ls body q halike
    rw [List.map_append, ← halike.map_kind, map_kind_tokensOf]
    rfl
  constructor
  · intro h
    obtain ⟨tokens, hscan, rfl⟩ := map_eq_ok_iff.mp h
    obtain ⟨ls, body, q, hdivides, halike, rfl⟩ := divides_of_scan hscan
    exact ⟨ls, hdivides, hkinds halike⟩
  · rintro ⟨ls, hdivides, rfl⟩
    obtain ⟨body, q, hscan, halike⟩ := hdivides.exists_scan Position.start
    exact map_eq_ok_iff.mpr ⟨_, hscan, hkinds halike⟩

/-! ## Writing tokens out -/

/-- A piece of text writes out what a token stands for. -/
inductive Spells : TokenKind → String → Prop where
  | identifier {name : String} :
      Spells (.identifier name) (String.ofList (writeQuoted '"' name.toList))
  | string {content : String} :
      Spells (.string content) (String.ofList (writeQuoted '\x27' content.toList))
  | numeral {digits : String} : IsNumeral digits.toList → Spells (.numeral digits) digits
  | keyword {k : Keyword} {word : String} :
      List.Forall₂ (fun u c => c = u ∨ c = u.toLower) k.spelling.toList word.toList →
      Spells (.keyword k) word
  | mark {m spelling} : (spelling, m) ∈ spellings → Spells (.mark m) (String.ofList spelling)

/-- A text writes out a list of tokens, a single blank between any two. -/
def WritesOut (kinds : List TokenKind) (text : String) : Prop :=
  ∃ pieces, text = " ".intercalate pieces ∧ List.Forall₂ Spells kinds pieces

/-- The end of a text and what is formed as no numeral cannot be written out. -/
def Writable : TokenKind → Prop
  | .finish => False
  | .numeral digits => IsNumeral digits.toList
  | .identifier _ | .string _ | .keyword _ | .mark _ => True

theorem exists_spelling (m : Mark) : ∃ spelling, (spelling, m) ∈ spellings := by
  cases m <;> simp [spellings]

theorem writable_iff {kind : TokenKind} : Writable kind ↔ ∃ piece, Spells kind piece := by
  constructor
  · intro h
    rcases kind with name | content | digits | k | m | _
    · exact ⟨_, .identifier⟩
    · exact ⟨_, .string⟩
    · exact ⟨_, .numeral h⟩
    · exact ⟨k.spelling, .keyword (List.forall₂_same.mpr fun _ _ => .inl rfl)⟩
    · obtain ⟨spelling, hspelled⟩ := exists_spelling m
      exact ⟨_, .mark hspelled⟩
    · exact h.elim
  · rintro ⟨piece, h⟩
    rcases h with _ | _ | hnumeral | _ | _
    · trivial
    · trivial
    · exact hnumeral
    · trivial
    · trivial

/-- Whatever can be written out piece by piece can be written out. -/
theorem exists_writesOut {kinds : List TokenKind} (h : ∀ kind ∈ kinds, Writable kind) :
    ∃ text, WritesOut kinds text := by
  obtain ⟨pieces, hpieces⟩ := exists_forall₂ fun kind hkind => writable_iff.mp (h kind hkind)
  exact ⟨_, pieces, rfl, hpieces⟩

/-! ## One piece -/

/-- A letter of a keyword, in either case. -/
theorem letter_of_spelling {k : Keyword} {u c : Char} (hu : u ∈ k.spelling.toList)
    (hc : c = u ∨ c = u.toLower) : c.toUpper = u ∧ isWordStart c = true := by
  have hupper : k.spelling.toList.all (fun u => u.toUpper == u && isWordStart u) = true := by
    cases k <;> rfl
  have hlower : k.spelling.toList.all
      (fun u => u.toLower.toUpper == u && isWordStart u.toLower) = true := by
    cases k <;> rfl
  rcases hc with rfl | rfl
  · simpa using List.all_eq_true.mp hupper c hu
  · simpa using List.all_eq_true.mp hlower u hu

theorem letters_of_forall₂ {k : Keyword} {us letters : List Char}
    (hus : ∀ u ∈ us, u ∈ k.spelling.toList)
    (h : List.Forall₂ (fun u c => c = u ∨ c = u.toLower) us letters) :
    letters.map Char.toUpper = us ∧ ∀ c ∈ letters, isWordStart c = true := by
  induction h with
  | nil => simp
  | cons hc _ ih =>
      obtain ⟨hu, hus⟩ := List.forall_mem_cons.mp hus
      obtain ⟨hupper, hstart⟩ := letter_of_spelling hu hc
      obtain ⟨huppers, hstarts⟩ := ih hus
      rw [List.map_cons, hupper, huppers]
      exact ⟨rfl, List.forall_mem_cons.mpr ⟨hstart, hstarts⟩⟩

/-- A keyword in any mix of letter case is a word, and the keyword of this word. -/
theorem ofWord?_of_forall₂ {k : Keyword} {letters : List Char}
    (h : List.Forall₂ (fun u c => c = u ∨ c = u.toLower) k.spelling.toList letters) :
    Keyword.ofWord? letters = some k ∧ IsWord letters := by
  obtain ⟨hupper, hstart⟩ := letters_of_forall₂ (fun _ hu => hu) h
  constructor
  · rw [Keyword.ofWord?, hupper]
    cases k <;> rfl
  · cases letters with
    | nil =>
        have hword := isWord_spelling k
        rw [← hupper] at hword
        cases hword
    | cons c cs =>
        obtain ⟨hc, hcs⟩ := List.forall_mem_cons.mp hstart
        exact .of hc fun d hd => isWordChar_of_isWordStart (hcs d hd)

/-- Each piece is one lexeme from end to end. -/
theorem Spells.exists_foremost {kind : TokenKind} {piece : String} (h : Spells kind piece) :
    ∃ l : Lexeme, l.kind = kind ∧ Foremost piece.toList l [] := by
  rcases h with _ | _ | hnumeral | hletters | hspelled
  · next name =>
      refine ⟨.name name.toList, by simp [Lexeme.kind], ?_⟩
      exact .name (by simp [writeQuoted, writeBody]) (between_iff.mpr rfl) (stops_nil _)
  · next content =>
      refine ⟨.string content.toList, by simp [Lexeme.kind], ?_⟩
      exact .string (by simp [writeQuoted, writeBody]) (between_iff.mpr rfl) (stops_nil _)
  · refine ⟨.numeral piece.toList, by simp [Lexeme.kind], ?_⟩
    exact .numeral (List.append_nil _).symm (.self hnumeral)
  · next k =>
      obtain ⟨hk, hword⟩ := ofWord?_of_forall₂ hletters
      refine ⟨.word piece.toList, by simp [Lexeme.kind, hk], ?_⟩
      exact .word (List.append_nil _).symm (.self hword)
  · next m spelling =>
      refine ⟨.mark m spelling, rfl, ?_⟩
      rw [String.toList_ofList]
      exact .mark (List.append_nil _).symm hspelled (.self (List.mem_map_of_mem hspelled))

/-- What is a lexeme from end to end divides into this lexeme and leaves nothing
open. -/
theorem Foremost.divides_single {piece : List Char} {l : Lexeme} (h : Foremost piece l []) :
    Divides piece [l] ∧ closes piece = true := by
  have hcomment : startsComment piece = false := by
    rw [Bool.eq_false_iff]
    intro hstarts
    -- Of two minus signs the scanner takes the first alone.
    obtain ⟨rest, rfl⟩ := startsComment_iff.mp hstarts
    have hfirst := first_eq_ok_iff.mpr h
    cases hfirst
  obtain ⟨c, cs, rfl, hfirst⟩ := first_of_foremost h
  constructor
  · exact .lexeme h.not_blank hcomment hfirst .nil
  · rw [closes_of_first hcomment hfirst]
    rfl

/-! ## A list of pieces -/

theorem divides_intercalate {kinds : List TokenKind} {pieces : List String}
    (h : List.Forall₂ Spells kinds pieces) :
    ∃ ls, Divides (" ".intercalate pieces).toList ls ∧ ls.map Lexeme.kind = kinds := by
  induction h with
  | nil => exact ⟨[], by simpa using Divides.nil, rfl⟩
  | @cons kind piece kinds pieces hspells hmore ih =>
      obtain ⟨ls, hls, rfl⟩ := ih
      obtain ⟨l, rfl, hforemost⟩ := hspells.exists_foremost
      obtain ⟨hdivides, hcloses⟩ := hforemost.divides_single
      refine ⟨l :: ls, ?_, rfl⟩
      cases pieces with
      | nil =>
          cases ls with
          | nil => simpa using hdivides
          | cons _ _ => cases hmore
      | cons piece' pieces =>
          have hall := hdivides.append_blank (by decide : isBlankChar ' ' = true)
            (.inl hcloses) hls
          simpa using hall

/-- What is written out reads as what was written. -/
theorem WritesOut.kindsOf_eq {kinds : List TokenKind} {text : String}
    (h : WritesOut kinds text) : kindsOf text = .ok (kinds ++ [.finish]) := by
  obtain ⟨pieces, rfl, hpieces⟩ := h
  obtain ⟨ls, hdivides, rfl⟩ := divides_intercalate hpieces
  exact kindsOf_eq_ok_iff.mpr ⟨ls, hdivides, rfl⟩

/-- The tokens of a text can be written out, all but the last. -/
theorem exists_writable_of_kindsOf {text : String} {kinds : List TokenKind}
    (h : kindsOf text = .ok kinds) :
    ∃ body, kinds = body ++ [.finish] ∧ ∀ kind ∈ body, Writable kind := by
  obtain ⟨ls, hdivides, rfl⟩ := kindsOf_eq_ok_iff.mp h
  refine ⟨ls.map Lexeme.kind, rfl, fun kind hkind => ?_⟩
  rw [← map_kind_tokensOf] at hkind
  obtain ⟨t, ht, rfl⟩ := List.mem_map.mp hkind
  have hfinish := tokensOf_ne_finish t ht
  cases hkind : t.kind with
  | numeral digits => exact hdivides.numeralsFormed t ht digits hkind
  | finish => exact absurd hkind hfinish
  | identifier _ => trivial
  | string _ => trivial
  | keyword _ => trivial
  | mark _ => trivial

/-- **Tokens can be written out and read back.** Any list of tokens without an end,
the numerals among them formed as such, has a text that writes it out. Whichever
of these texts is taken, in whatever case its keywords are and whichever spelling
its marks have, it reads as this list and the end. So the tokens of any text can
be written out, and reading them again gives the same. -/
theorem kindsOf_writesOut :
    (∀ kinds, (∀ kind ∈ kinds, Writable kind) → ∃ text, WritesOut kinds text) ∧
    (∀ kinds text, WritesOut kinds text → kindsOf text = .ok (kinds ++ [.finish])) ∧
    ∀ text kinds, kindsOf text = .ok kinds → ∃ body, kinds = body ++ [.finish] ∧
      (∃ text', WritesOut body text') ∧
      ∀ text', WritesOut body text' → kindsOf text' = kindsOf text := by
  refine ⟨fun _ => exists_writesOut, fun _ _ => WritesOut.kindsOf_eq, ?_⟩
  intro text kinds h
  obtain ⟨body, rfl, hbody⟩ := exists_writable_of_kindsOf h
  refine ⟨body, rfl, exists_writesOut hbody, fun text' hwritten => ?_⟩
  rw [hwritten.kindsOf_eq, h]

/-- What would be a comment, a mark of two characters or one numeral stays apart. -/
example : kindsOf "- - < = 1. . sElect '--' \"\"" =
    .ok [.mark .minus, .mark .minus, .mark .lessThan, .mark .equals, .numeral "1.",
      .mark .dot, .keyword .SELECT, .string "--", .identifier "", .finish] := by
  cbv

end QueryBind.Sql
