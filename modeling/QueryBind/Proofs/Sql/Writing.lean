import QueryBind.Proofs.Sql.Division

/-!
# Lexemes as they are written

What has to be written for a text to divide into given lexemes: each lexeme as
it stands, with nothing behind it that it would take for a part of itself. A
word ends before any character that is none of a word, a numeral before any
that is no digit and no point, a quoted name before any but a quote, and a mark
of one character anywhere.
-/

namespace QueryBind.Sql

open QueryBind.Text

/-! ## Where a run of characters ends -/

/-- The next character, if there is one, is not of a class. -/
def Stops (p : Char → Bool) (cs : List Char) : Prop :=
  ∀ c ∈ cs.head?, p c = false

@[simp] theorem stops_nil (p : Char → Bool) : Stops p [] := by
  simp [Stops]

@[simp] theorem stops_cons {p : Char → Bool} {c : Char} {cs : List Char} :
    Stops p (c :: cs) ↔ p c = false := by
  simp [Stops]

theorem takeWhile_append_of_stops {p : Char → Bool} {as rest : List Char}
    (has : ∀ a ∈ as, p a = true) (hrest : Stops p rest) :
    (as ++ rest).takeWhile p = as := by
  rw [List.takeWhile_append_of_pos has]
  cases rest with
  | nil => simp
  | cons c rest => simp [stops_cons.mp hrest]

theorem dropWhile_append_of_stops {p : Char → Bool} {as rest : List Char}
    (has : ∀ a ∈ as, p a = true) (hrest : Stops p rest) :
    (as ++ rest).dropWhile p = rest := by
  rw [List.dropWhile_append_of_pos has]
  cases rest with
  | nil => rfl
  | cons c rest => simp [stops_cons.mp hrest]

/-! ## Words -/

theorem ne_of_isWordStart {c d : Char} (hc : isWordStart c = true)
    (hd : isWordStart d = false) : c ≠ d := by
  rintro rfl
  rw [hc] at hd
  cases hd

theorem isWordChar_of_isWordStart {c : Char} (h : isWordStart c = true) :
    isWordChar c = true := by
  simp only [isWordStart, isWordChar, Char.isAlphanum, Bool.or_eq_true] at h ⊢
  exact h.imp_left Or.inl

theorem isDigit_of_isWordStart {c : Char} (h : isWordStart c = true) :
    c.isDigit = false := by
  by_cases hline : c = '_'
  · subst hline
    rfl
  · have hrange : c.isAlpha = true := by simpa [isWordStart, hline] using h
    simp [Char.isAlpha, Char.isUpper, Char.isLower, UInt32.le_iff_toNat_le] at hrange
    simp [Char.isDigit, UInt32.le_iff_toNat_le]
    omega

theorem not_blank_of_isWordChar {c : Char} (h : isWordChar c = true) :
    isBlankChar c = false := by
  rw [Bool.eq_false_iff]
  intro hblank
  rw [isWordChar_of_isBlankChar hblank] at h
  cases h

theorem startsComment_of_ne {c : Char} (cs : List Char) (h : c ≠ '-') :
    startsComment (c :: cs) = false := by
  unfold startsComment
  split
  · next heq => exact absurd (List.cons.inj heq).1 h
  · rfl

theorem Lexeme.first_word {c : Char} {cs rest : List Char}
    (hstart : isWordStart c = true) (hcs : ∀ d ∈ cs, isWordChar d = true)
    (hrest : Stops isWordChar rest) :
    first c (cs ++ rest) = .ok (word (c :: cs), rest) := by
  have hsingle : singleMark? c = none := by
    unfold singleMark?
    split <;> first | rfl | exact absurd hstart (by decide)
  unfold first
  rw [hsingle]
  simp only [isDigit_of_isWordStart hstart, hstart,
    ne_of_isWordStart hstart (d := '\x27') rfl,
    ne_of_isWordStart hstart (d := '"') rfl, ne_of_isWordStart hstart (d := '!') rfl,
    ne_of_isWordStart hstart (d := '<') rfl, ne_of_isWordStart hstart (d := '>') rfl,
    if_true, if_false, Bool.false_eq_true]
  rw [takeWhile_append_of_stops hcs hrest, dropWhile_append_of_stops hcs hrest]

theorem Divides.word {letters rest : List Char} {ls : List Lexeme}
    (hword : IsWord letters) (hrest : Stops isWordChar rest)
    (h : Divides rest ls) : Divides (letters ++ rest) (.word letters :: ls) := by
  cases hword with
  | of hstart hcs =>
      exact .lexeme (not_blank_of_isWordChar (isWordChar_of_isWordStart hstart))
        (startsComment_of_ne _ (ne_of_isWordStart hstart rfl))
        (Lexeme.first_word hstart hcs hrest) h

/-! ## Numerals without a point -/

theorem Lexeme.first_numeral {c : Char} (cs : List Char) (hc : c.isDigit = true) :
    first c cs = .ok (numeral (c :: (splitNumeral cs).1), (splitNumeral cs).2) := by
  have hne : ∀ {d : Char}, d.isDigit = false → c ≠ d := by
    rintro d hd rfl
    rw [hc] at hd
    cases hd
  have hsingle : singleMark? c = none := by
    unfold singleMark?
    split <;> first | rfl | exact absurd hc (by decide)
  unfold first
  rw [hsingle]
  simp only [hc, hne (d := '\x27') rfl, hne (d := '"') rfl, if_true, if_false]

theorem Lexeme.first_digits {c : Char} {cs rest : List Char}
    (hc : c.isDigit = true) (hcs : ∀ d ∈ cs, d.isDigit = true)
    (hrest : Stops (fun d => d.isDigit || d == '.') rest) :
    first c (cs ++ rest) = .ok (numeral (c :: cs), rest) := by
  have hdigits : Stops Char.isDigit rest := fun d hd =>
    (Bool.or_eq_false_iff.mp (hrest d hd)).1
  have hpoint : ∀ tail, rest ≠ '.' :: tail := by
    rintro tail rfl
    have := hrest '.' rfl
    simp at this
  have hsplit : splitNumeral (cs ++ rest) = (cs, rest) := by
    unfold splitNumeral
    rw [takeWhile_append_of_stops hcs hdigits, dropWhile_append_of_stops hcs hdigits]
    split
    · next tail => exact absurd rfl (hpoint tail)
    · rfl
  rw [first_numeral _ hc, hsplit]

theorem Divides.digits {c : Char} {cs rest : List Char} {ls : List Lexeme}
    (hc : c.isDigit = true) (hcs : ∀ d ∈ cs, d.isDigit = true)
    (hrest : Stops (fun d => d.isDigit || d == '.') rest) (h : Divides rest ls) :
    Divides (c :: cs ++ rest) (.numeral (c :: cs) :: ls) := by
  have hword : isWordChar c = true := by simp [isWordChar, Char.isAlphanum, hc]
  have hminus : c ≠ '-' := by
    rintro rfl
    cases hc
  exact .lexeme (not_blank_of_isWordChar hword) (startsComment_of_ne _ hminus)
    (Lexeme.first_digits hc hcs hrest) h

/-! ## Quoted names and marks -/

theorem Divides.name {rest : List Char} {ls : List Lexeme} (content : List Char)
    (hrest : Stops (· == '"') rest) (h : Divides rest ls) :
    Divides (writeQuoted '"' content ++ rest) (.name content :: ls) := by
  have hhead : rest.head? ≠ some '"' := by
    intro heq
    have := hrest '"' heq
    simp at this
  refine .lexeme (by decide) (startsComment_of_ne _ (by decide)) ?_ h
  show Lexeme.first '"' (writeBody '"' content ++ rest) = _
  have hsingle : singleMark? '"' = none := rfl
  simp [Lexeme.first, hsingle, quotedBody_writeBody content hhead]

/-- A mark of one character, the minus apart, which two of make a comment. -/
theorem Divides.mark {c : Char} {m : Mark} {rest : List Char} {ls : List Lexeme}
    (hm : singleMark? c = some m) (hminus : m ≠ .minus) (h : Divides rest ls) :
    Divides (c :: rest) (.mark m [c] :: ls) := by
  have hc : isBlankChar c = false ∧ c ≠ '-' := by
    unfold singleMark? at hm
    split at hm <;> cases hm <;> first | decide | exact absurd rfl hminus
  refine .lexeme hc.1 (startsComment_of_ne _ hc.2) ?_ h
  unfold Lexeme.first
  rw [hm]

/-! ## Comments -/

theorem afterLine_comment {line : List Char} (hline : '\n' ∉ line)
    {rest : List Char} (hrest : Stops (· != '\n') rest) :
    afterLine ('-' :: '-' :: (line ++ rest)) = rest := by
  have hall : ∀ d ∈ '-' :: '-' :: line, (d != '\n') = true := by
    intro d hd
    rw [bne_iff_ne]
    rintro rfl
    simp [hline] at hd
  rw [← List.cons_append, ← List.cons_append]
  exact dropWhile_append_of_stops hall hrest

/-- A comment that its line feed ends leaves nothing behind. -/
theorem Divides.commentLine {cs rest : List Char} {ls : List Lexeme}
    (hcs : '\n' ∉ cs) (h : Divides rest ls) :
    Divides ('-' :: '-' :: (cs ++ '\n' :: rest)) ls := by
  refine .comment (by decide) rfl ?_
  rw [afterLine_comment hcs (by simp)]
  exact .blank isBlankChar_lineFeed h

/-! ## Texts under any continuation -/

/-- A character that what stands before it might take for its own. -/
def isContinuing (c : Char) : Bool := isWordChar c || c == '.' || c == '"'

/-- A text divides into lexemes and leaves what follows it alone, as long as
that begins with no continuing character. -/
def Yields (cs : List Char) (ls : List Lexeme) : Prop :=
  ∀ rest ls', Stops isContinuing rest → Divides rest ls' →
    Divides (cs ++ rest) (ls ++ ls')

theorem Stops.word {rest : List Char} (h : Stops isContinuing rest) :
    Stops isWordChar rest := by
  intro c hc
  have hstop := h c hc
  simp only [isContinuing, Bool.or_eq_false_iff] at hstop
  exact hstop.1.1

theorem Stops.quote {rest : List Char} (h : Stops isContinuing rest) :
    Stops (· == '"') rest := by
  intro c hc
  have hstop := h c hc
  simp only [isContinuing, Bool.or_eq_false_iff] at hstop
  exact hstop.2

theorem Stops.numeral {rest : List Char} (h : Stops isContinuing rest) :
    Stops (fun d => d.isDigit || d == '.') rest := by
  intro c hc
  have hstop := h c hc
  simp only [isContinuing, isWordChar, Char.isAlphanum, Bool.or_eq_false_iff] at hstop
  simp [hstop.1.1.1.2, hstop.1.2]

namespace Yields

theorem divides {cs : List Char} {ls : List Lexeme} (h : Yields cs ls) :
    Divides cs ls := by
  have hend := h [] [] (stops_nil _) .nil
  rwa [List.append_nil, List.append_nil] at hend

theorem nil : Yields [] [] := fun _ _ _ h => h

theorem word {letters : List Char} (h : IsWord letters) :
    Yields letters [.word letters] :=
  fun _ _ hrest hdivides => .word h hrest.word hdivides

theorem name (content : List Char) :
    Yields (writeQuoted '"' content) [.name content] :=
  fun _ _ hrest hdivides => .name content hrest.quote hdivides

theorem digits {c : Char} {cs : List Char} (hc : c.isDigit = true)
    (hcs : ∀ d ∈ cs, d.isDigit = true) : Yields (c :: cs) [.numeral (c :: cs)] :=
  fun _ _ hrest hdivides => .digits hc hcs hrest.numeral hdivides

/-- What does not begin with a continuing character may be put behind a text. -/
theorem append {cs ds : List Char} {d : Char} {ls ls' : List Lexeme}
    (h : Yields cs ls) (hd : isContinuing d = false) (h' : Yields (d :: ds) ls') :
    Yields (cs ++ d :: ds) (ls ++ ls') := by
  intro rest ls'' hrest hdivides
  rw [List.append_assoc, List.append_assoc]
  exact h _ _ (stops_cons.mpr hd) (h' _ _ hrest hdivides)

theorem blank {c : Char} {cs : List Char} {ls : List Lexeme}
    (hc : isBlankChar c = true) (h : Yields cs ls) : Yields (c :: cs) ls :=
  fun rest ls' hrest hdivides => .blank hc (h rest ls' hrest hdivides)

theorem mark {c : Char} {m : Mark} {cs : List Char} {ls : List Lexeme}
    (hm : singleMark? c = some m) (hminus : m ≠ .minus) (h : Yields cs ls) :
    Yields (c :: cs) (.mark m [c] :: ls) :=
  fun rest ls' hrest hdivides => .mark hm hminus (h rest ls' hrest hdivides)

/-- A name and a point may stand before anything. -/
theorem qualified (content : List Char) {cs : List Char} {ls : List Lexeme}
    (h : Yields cs ls) :
    Yields (writeQuoted '"' content ++ '.' :: cs)
      (.name content :: .mark .dot ['.'] :: ls) := by
  intro rest ls' hrest hdivides
  rw [List.append_assoc]
  refine .name content (by simp) ?_
  exact .mark rfl (by decide) (h rest ls' hrest hdivides)

end Yields

/-! ## Keywords and marks -/

theorem isWord_spelling (k : Keyword) : IsWord k.spelling.toList := by
  have hletters : k.spelling.toList.tail.all isWordChar = true := by
    cases k <;> rfl
  cases k <;> exact .of rfl (List.all_eq_true.mp hletters)

theorem kind_spelling (k : Keyword) :
    ((Lexeme.word k.spelling.toList).token Position.start).kind = .keyword k := by
  cases k <;> rfl

theorem kind_mark (m : Mark) (spelling : List Char) :
    ((Lexeme.mark m spelling).token Position.start).kind = .mark m := rfl

theorem Yields.keyword (k : Keyword) :
    Yields k.spelling.toList [.word k.spelling.toList] :=
  .word (isWord_spelling k)

/-! ## Texts of phrases -/

/-- A text writes a tree: its lexemes are a phrase that derives the tree. -/
def Writes {α : Type} (phrase : List Token → α → Prop) (cs : List Char) (a : α) :
    Prop :=
  ∃ ls, Yields cs ls ∧ phrase (tokensOf ls) a

/-- Each entry of a list in a line of its own. -/
theorem Writes.lines {α β : Type} {one : List Token → α → Prop}
    {write : β → String} {tree : β → α} {bs : List β} (hne : bs ≠ [])
    (h : ∀ b ∈ bs, Writes one (write b).toList (tree b)) :
    Writes (Listed one) (",\n".intercalate (bs.map write)).toList (bs.map tree) := by
  induction bs with
  | nil => exact absurd rfl hne
  | cons b bs ih =>
      obtain ⟨⟨ls, hyields, hone⟩, hothers⟩ := List.forall_mem_cons.mp h
      cases bs with
      | nil => exact ⟨ls, by simpa using hyields, .single hone⟩
      | cons b' bs =>
          obtain ⟨ls', hyields', hlisted⟩ := ih (by simp) hothers
          have hcomma : Yields (',' :: '\n' ::
              (",\n".intercalate ((b' :: bs).map write)).toList)
              (.mark .comma [','] :: ls') :=
            .mark rfl (by decide) (.blank (by decide) hyields')
          refine ⟨ls ++ .mark .comma [','] :: ls', ?_, ?_⟩
          · have hall := hyields.append (by decide) hcomma
            simpa using hall
          · have hseparator : One (.mark .comma) (tokensOf [.mark .comma [',']]) :=
              ⟨_, rfl, kind_mark _ _⟩
            have hall := Separated.more hone hseparator hlisted
            simpa using hall

end QueryBind.Sql
