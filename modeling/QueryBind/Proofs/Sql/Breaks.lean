import QueryBind.Proofs.Sql.Writing

/-!
# Where a text may be broken

A blank character ends every lexeme, but inside quotes it belongs to the content,
and in a comment only a line feed ends anything. So a blank between two texts
keeps them apart, whatever blank it is, exactly if the first of them leaves no
quote open and ends outside of comments. Blanks at the ends of a text never
matter.
-/

namespace QueryBind.Sql

open QueryBind.Text

/-! ## What is open behind a text -/

/-- Where a reader of a text is: outside of everything, behind one minus sign, in
a comment, or behind an opening quote. -/
inductive Spot where
  | outside
  | minus
  | comment
  | quoted (quote : Char)
  deriving DecidableEq, Repr

namespace Spot

/-- The spot behind a character that nothing before it goes on with. -/
def begun (c : Char) : Spot :=
  if c = '-' then minus
  else if c = '\x27' ∨ c = '"' then quoted c
  else outside

def next : Spot → Char → Spot
  | outside, c => begun c
  | minus, c => if c = '-' then comment else begun c
  | comment, c => if c = '\n' then outside else comment
  | quoted quote, c => if c = quote then outside else quoted quote

def isClosed : Spot → Bool
  | outside | minus => true
  | comment | quoted _ => false

end Spot

/-- The spot behind a text. -/
def spotAfter (s : Spot) (cs : List Char) : Spot := cs.foldl Spot.next s

/-- A text leaves no quote and no comment open. -/
def closes (cs : List Char) : Bool := (spotAfter .outside cs).isClosed

theorem spotAfter_append (s : Spot) (cs ds : List Char) :
    spotAfter s (cs ++ ds) = spotAfter (spotAfter s cs) ds :=
  List.foldl_append

/-- Nothing is open behind a minus sign either, unless another one follows. -/
theorem closes_of_minus {cs : List Char} (h : Stops (· == '-') cs) :
    (spotAfter .minus cs).isClosed = closes cs := by
  cases cs with
  | nil => rfl
  | cons c cs =>
      have hc : c ≠ '-' := by simpa using stops_cons.mp h
      show (spotAfter (Spot.next .minus c) cs).isClosed = closes (c :: cs)
      rw [Spot.next, if_neg hc]
      rfl

theorem next_outside {c : Char} (hminus : c ≠ '-') (hsingle : c ≠ '\x27')
    (hdouble : c ≠ '"') : Spot.next .outside c = .outside := by
  rw [Spot.next, Spot.begun, if_neg hminus, if_neg (by simp [hsingle, hdouble])]

/-- Characters that open nothing leave a text outside. -/
theorem spotAfter_outside {cs : List Char}
    (h : ∀ c ∈ cs, Spot.next .outside c = .outside) :
    spotAfter .outside cs = .outside := by
  induction cs with
  | nil => rfl
  | cons c cs ih =>
      rw [List.forall_mem_cons] at h
      show spotAfter (Spot.next .outside c) cs = .outside
      rw [h.1, ih h.2]

theorem next_outside_of_isBlankChar {c : Char} (h : isBlankChar c = true) :
    Spot.next .outside c = .outside :=
  next_outside (ne_of_isBlankChar h (by decide) (by decide))
    (ne_of_isBlankChar h (by decide) (by decide))
    (ne_of_isBlankChar h (by decide) (by decide))

theorem next_outside_of_isWordChar {c : Char} (h : isWordChar c = true) :
    Spot.next .outside c = .outside := by
  refine next_outside ?_ ?_ ?_ <;>
  · rintro rfl
    exact absurd h (by decide)

/-! ## Quotes -/

/-- A quote behind a quote opens again. -/
theorem next_next_quoted {quote : Char} (h : quote = '\x27' ∨ quote = '"') :
    Spot.next (Spot.next (.quoted quote) quote) quote = .quoted quote := by
  rcases h with rfl | rfl <;> rfl

/-- The second of two quotes closes what stands between them. -/
theorem spotAfter_writeBody {quote : Char} (content : List Char)
    (hquote : quote = '\x27' ∨ quote = '"') :
    spotAfter (.quoted quote) (writeBody quote content) = .outside := by
  induction content with
  | nil =>
      show Spot.next (.quoted quote) quote = .outside
      rw [Spot.next, if_pos rfl]
  | cons c content ih =>
      by_cases hc : c = quote
      · rw [hc, writeBody_cons_self]
        show spotAfter (Spot.next (Spot.next (.quoted quote) quote) quote) _ = .outside
        rw [next_next_quoted hquote, ih]
      · rw [writeBody_cons_of_ne content hc]
        show spotAfter (Spot.next (.quoted quote) c) _ = .outside
        rw [Spot.next, if_neg hc, ih]

/-- A quote that is not closed stays open. -/
theorem spotAfter_of_quotedBody_eq_none {quote : Char} {cs : List Char}
    (hquote : quote = '\x27' ∨ quote = '"') (h : quotedBody quote cs = none) :
    spotAfter (.quoted quote) cs = .quoted quote := by
  fun_induction quotedBody quote cs with
  | case1 => rfl
  | case2 => cases h
  | case3 c hc =>
      show Spot.next (.quoted quote) c = .quoted quote
      rw [Spot.next, if_neg hc]
  | case4 tail ih =>
      have htail := ih (by simpa using h)
      show spotAfter (Spot.next (Spot.next (.quoted quote) quote) quote) tail = _
      rw [next_next_quoted hquote, htail]
  | case5 => cases h
  | case6 c d tail hc ih =>
      have htail := ih (by simpa using h)
      show spotAfter (Spot.next (.quoted quote) c) (d :: tail) = _
      rw [Spot.next, if_neg hc, htail]

/-! ## Lexemes -/

theorem Lexeme.spotAfter_mark {c : Char} {cs rest spelling : List Char} {m : Mark}
    (h : first c cs = .ok (mark m spelling, rest)) :
    spotAfter .outside spelling = .outside ∨ spelling = ['-'] := by
  unfold first at h
  split at h
  · next hsingle =>
      cases h
      unfold singleMark? at hsingle
      split at hsingle <;> first | exact .inl rfl | exact .inr rfl | cases hsingle
  split at h
  · split at h <;> cases h
  split at h
  · split at h <;> cases h
  split at h
  · cases h
  split at h
  · split at h <;> cases h
    exact .inl rfl
  split at h
  · split at h <;> cases h <;> exact .inl rfl
  split at h
  · split at h <;> cases h <;> exact .inl rfl
  split at h <;> cases h

/-- A lexeme leaves nothing open. -/
theorem Lexeme.spotAfter_written {c : Char} {cs rest : List Char} {l : Lexeme}
    (h : first c cs = .ok (l, rest)) :
    spotAfter .outside l.written = .outside ∨ l.written = ['-'] := by
  have hformed := isFormed_of_first h
  cases l with
  | mark m spelling => exact spotAfter_mark h
  | string content => exact .inl (spotAfter_writeBody content (.inl rfl))
  | name content => exact .inl (spotAfter_writeBody content (.inr rfl))
  | word letters =>
      left
      cases hformed with
      | of hstart hletters =>
          refine spotAfter_outside fun d hd => next_outside_of_isWordChar ?_
          rcases List.mem_cons.mp hd with rfl | hd
          · exact isWordChar_of_isWordStart hstart
          · exact hletters d hd
  | numeral digits =>
      left
      have hdigit : ∀ d : Char, d.isDigit = true → Spot.next .outside d = .outside := by
        intro d hd
        refine next_outside_of_isWordChar ?_
        simp [isWordChar, Char.isAlphanum, hd]
      refine spotAfter_outside fun d hd => ?_
      cases hformed with
      | whole hc hds =>
          rcases List.mem_cons.mp hd with rfl | hd
          · exact hdigit _ hc
          · exact hdigit _ (hds d hd)
      | pointed hc hds hes =>
          rcases List.mem_cons.mp hd with rfl | hd
          · exact hdigit _ hc
          rcases List.mem_append.mp hd with hd | hd
          · exact hdigit _ (hds d hd)
          rcases List.mem_cons.mp hd with rfl | hd
          · rfl
          · exact hdigit _ (hes d hd)

/-- So what is open behind a text is open behind what follows its first lexeme. -/
theorem closes_of_first {c : Char} {cs rest : List Char} {l : Lexeme}
    (hcomment : startsComment (c :: cs) = false)
    (h : Lexeme.first c cs = .ok (l, rest)) : closes (c :: cs) = closes rest := by
  have htext := Lexeme.eq_written_append_of_first h
  rw [htext, closes, spotAfter_append]
  rcases Lexeme.spotAfter_written h with hout | hminus
  · rw [hout, closes]
  · rw [hminus]
    refine closes_of_minus ?_
    rw [htext, hminus] at hcomment
    cases rest with
    | nil => exact stops_nil _
    | cons d rest =>
        refine stops_cons.mpr ?_
        by_cases hd : d = '-'
        · rw [hd] at hcomment
          cases hcomment
        · simpa using hd

theorem closes_of_isBlankChar {c : Char} (cs : List Char)
    (h : isBlankChar c = true) : closes (c :: cs) = closes cs := by
  show (spotAfter (Spot.next .outside c) cs).isClosed = closes cs
  rw [next_outside_of_isBlankChar h]
  rfl

/-- A comment is open up to its line feed. -/
theorem spotAfter_comment (cs : List Char) :
    spotAfter .comment cs = spotAfter .comment (afterLine cs) := by
  induction cs with
  | nil => rfl
  | cons c cs ih =>
      by_cases hc : c = '\n'
      · simp [afterLine, hc]
      · have hafter : afterLine (c :: cs) = afterLine cs := by simp [afterLine, hc]
        rw [hafter, ← ih]
        show spotAfter (Spot.next .comment c) cs = _
        rw [Spot.next, if_neg hc]

/-- A text that begins with a comment and leaves nothing open goes on in the next
line. -/
theorem closes_of_startsComment {cs : List Char} (h : startsComment cs = true)
    (hcloses : closes cs = true) :
    ∃ rest, afterLine cs = '\n' :: rest ∧ closes rest = true := by
  unfold startsComment at h
  split at h
  · next cs =>
      have hline : afterLine ('-' :: '-' :: cs) = afterLine cs := by
        simp [afterLine]
      have hspot : closes ('-' :: '-' :: cs) = (spotAfter .comment (afterLine cs)).isClosed := by
        rw [← spotAfter_comment]
        rfl
      rw [hline]
      rw [hspot] at hcloses
      cases hrest : afterLine cs with
      | nil =>
          rw [hrest] at hcloses
          cases hcloses
      | cons d rest =>
          have hd : d = '\n' := by
            have hstop := List.head?_dropWhile_not (· != '\n') cs
            rw [← afterLine, hrest] at hstop
            simpa using hstop
          subst hd
          rw [hrest] at hcloses
          exact ⟨rest, rfl, hcloses⟩
  · cases h

/-- A quote that is not closed. -/
theorem closes_of_unclosed {quote : Char} {cs : List Char}
    (hquote : quote = '\x27' ∨ quote = '"') (h : quotedBody quote cs = none) :
    closes (quote :: cs) = false := by
  have hopen : Spot.next .outside quote = .quoted quote := by
    rcases hquote with rfl | rfl <;> rfl
  show (spotAfter (Spot.next .outside quote) cs).isClosed = false
  rw [hopen, spotAfter_of_quotedBody_eq_none hquote h]
  rfl

/-! ## A blank behind a text -/

theorem divides_nil_iff {ls : List Lexeme} : Divides [] ls ↔ ls = [] := by
  constructor
  · rintro ⟨⟩
    rfl
  · rintro rfl
    exact .nil

theorem divides_blank_cons_iff {c : Char} {cs : List Char} {ls : List Lexeme}
    (hc : isBlankChar c = true) : Divides (c :: cs) ls ↔ Divides cs ls := by
  constructor
  · intro h
    cases h with
    | blank _ h => exact h
    | comment hblank _ _ => simp [hc] at hblank
    | lexeme hblank _ _ _ => simp [hc] at hblank
  · exact .blank hc

theorem quotedBody_append_eq_none {quote d : Char} {cs : List Char} (hd : d ≠ quote)
    (h : quotedBody quote cs = none) : quotedBody quote (cs ++ [d]) = none := by
  fun_induction quotedBody quote cs with
  | case1 => simp [quotedBody, hd]
  | case2 => cases h
  | case3 c hc => simp [quotedBody, hc, hd]
  | case4 tail ih => simpa [quotedBody] using ih (by simpa using h)
  | case5 => cases h
  | case6 c e tail hc ih =>
      have hrest := ih (by simpa using h)
      rw [List.cons_append] at hrest
      simp [quotedBody, hc, hrest]

/-- Where no lexeme begins, none begins with a blank behind the text either,
unless the blank comes into an open quote. -/
theorem Lexeme.first_append_blank_error {c d : Char} {cs : List Char}
    {fault : LexicalFault} (rest : List Char) (hd : isBlankChar d = true)
    (h : first c cs = .error fault) :
    ((c = '\x27' ∨ c = '"') ∧ quotedBody c cs = none) ∨
      ∃ fault', first c (cs ++ d :: rest) = .error fault' := by
  have hequal : d ≠ '=' := ne_of_isBlankChar hd (by decide) (by decide)
  unfold first at h
  split at h
  · cases h
  next hsingle =>
  split at h
  · next hc =>
      split at h
      · cases h
      · next hbody => exact .inl ⟨.inl hc, by rwa [hc]⟩
  next hquote =>
  split at h
  · next hc =>
      split at h
      · cases h
      · next hbody => exact .inl ⟨.inr hc, by rwa [hc]⟩
  next hquote' =>
  right
  unfold first
  rw [hsingle]
  dsimp only
  rw [if_neg hquote, if_neg hquote']
  split at h
  · cases h
  next hdigit =>
  rw [if_neg hdigit]
  split at h
  · next hbang =>
      rw [if_pos hbang]
      split at h
      · cases h
      · next hne =>
          split
          · next heq => exact absurd heq (append_ne_cons hne hequal)
          · exact ⟨_, rfl⟩
  next hbang =>
  rw [if_neg hbang]
  split at h
  · split at h <;> cases h
  next hless =>
  rw [if_neg hless]
  split at h
  · split at h <;> cases h
  next hgreater =>
  rw [if_neg hgreater]
  split at h
  · cases h
  next hword =>
  rw [if_neg hword]
  exact ⟨_, rfl⟩

theorem Lexeme.first_unclosed {quote : Char} {cs : List Char}
    (hquote : quote = '\x27' ∨ quote = '"') (h : quotedBody quote cs = none) :
    ∃ fault, first quote cs = .error fault := by
  rcases hquote with rfl | rfl
  · exact ⟨.unclosedString, by simp [first, singleMark?, h]⟩
  · exact ⟨.unclosedName, by simp [first, singleMark?, h]⟩

/-- If nothing is open behind a text, or nothing follows, then a blank behind it
leaves it the first lexeme that it has. -/
theorem Lexeme.first_of_append_blank {c d : Char} {cs rest after : List Char}
    {l : Lexeme} (hd : isBlankChar d = true)
    (hend : closes (c :: cs) = true ∨ rest = [])
    (h : first c (cs ++ d :: rest) = .ok (l, after)) :
    ∃ after', first c cs = .ok (l, after') ∧ after = after' ++ d :: rest := by
  cases hfirst : first c cs with
  | ok result =>
      obtain ⟨l', after'⟩ := result
      rw [first_append_blank rest hd hfirst] at h
      cases h
      exact ⟨after', rfl, rfl⟩
  | error fault =>
      exfalso
      rcases first_append_blank_error rest hd hfirst with
        ⟨hquote, hbody⟩ | ⟨fault', herror⟩
      · rcases hend with hcloses | rfl
        · rw [closes_of_unclosed hquote hbody] at hcloses
          cases hcloses
        · have hne : d ≠ c := by
            rcases hquote with rfl | rfl
            · exact ne_of_isBlankChar hd (by decide) (by decide)
            · exact ne_of_isBlankChar hd (by decide) (by decide)
          obtain ⟨fault', herror⟩ :=
            first_unclosed hquote (quotedBody_append_eq_none hne hbody)
          rw [h] at herror
          cases herror
      · rw [h] at herror
        cases herror

/-- What follows a comment when a blank is put behind the text: if the comment has
the text to its end, then nothing does, as nothing stands behind the blank. -/
theorem divides_afterLine_append {d : Char} {cs rest : List Char}
    (hd : isBlankChar d = true) (hcomment : startsComment cs = true)
    (hend : closes cs = true ∨ rest = []) :
    (closes (afterLine cs) = true ∨ rest = []) ∧
      ∀ ls, Divides (afterLine (cs ++ d :: rest)) ls ↔
        Divides (afterLine cs ++ d :: rest) ls := by
  have hsplit : afterLine (cs ++ d :: rest) =
      if (afterLine cs).isEmpty then afterLine (d :: rest)
      else afterLine cs ++ d :: rest := List.dropWhile_append
  refine ⟨hend.imp_left fun hcloses => ?_, fun ls => ?_⟩
  · obtain ⟨next, hnext, hclosed⟩ := closes_of_startsComment hcomment hcloses
    rwa [hnext, closes_of_isBlankChar next isBlankChar_lineFeed]
  · cases hafter : afterLine cs with
    | cons e es => rw [hsplit, hafter, List.isEmpty_cons, if_neg Bool.false_ne_true]
    | nil =>
        rw [hsplit, hafter, List.isEmpty_nil, if_pos rfl, List.nil_append]
        rcases hend with hcloses | rfl
        · obtain ⟨next, hnext, -⟩ := closes_of_startsComment hcomment hcloses
          rw [hafter] at hnext
          cases hnext
        · rw [divides_blank_cons_iff hd, afterLine, List.dropWhile_cons]
          split
          · rfl
          · rw [divides_blank_cons_iff hd]

/-- Lexemes stay when a blank is put behind a text, and more may follow. -/
theorem Divides.append_blank {d : Char} {cs rest : List Char}
    {before after : List Lexeme} (hd : isBlankChar d = true)
    (hend : closes cs = true ∨ rest = []) (hcs : Divides cs before)
    (hrest : Divides rest after) : Divides (cs ++ d :: rest) (before ++ after) := by
  induction hcs with
  | nil => exact .blank hd hrest
  | @blank c cs ls hblank _ ih =>
      exact .blank hblank (ih (hend.imp_left (closes_of_isBlankChar cs hblank).symm.trans))
  | @comment c cs ls hblank hcomment _ ih =>
      obtain ⟨hend', hafter⟩ := divides_afterLine_append hd hcomment hend
      have hstart := startsComment_append_blank rest hd (List.cons_ne_nil c cs)
      exact .comment hblank (hstart.trans hcomment) ((hafter _).mpr (ih hend'))
  | @lexeme c cs l after' ls hblank hcomment hfirst _ ih =>
      have hstart := startsComment_append_blank rest hd (List.cons_ne_nil c cs)
      exact .lexeme hblank (hstart.trans hcomment)
        (Lexeme.first_append_blank rest hd hfirst)
        (ih (hend.imp_left (closes_of_first hcomment hfirst).symm.trans))

/-- The lexemes of a text with a blank in it are those before and those behind. -/
theorem Divides.of_append_blank {d : Char} {cs rest : List Char} {ls : List Lexeme}
    (hd : isBlankChar d = true) (hend : closes cs = true ∨ rest = [])
    (h : Divides (cs ++ d :: rest) ls) :
    ∃ before after, ls = before ++ after ∧ Divides cs before ∧ Divides rest after := by
  -- By the length of the text, as a comment takes a whole line off it.
  induction hlength : cs.length using Nat.strong_induction_on generalizing cs ls with
  | _ n ih =>
    subst hlength
    cases cs with
    | nil => exact ⟨[], ls, rfl, .nil, (divides_blank_cons_iff hd).mp h⟩
    | cons c cs =>
        have hstart := startsComment_append_blank rest hd (List.cons_ne_nil c cs)
        cases h with
        | blank hblank h =>
            obtain ⟨before, after, hls, hbefore, hafter⟩ := ih cs.length (by simp)
              (hend.imp_left (closes_of_isBlankChar cs hblank).symm.trans) h rfl
            exact ⟨before, after, hls, .blank hblank hbefore, hafter⟩
        | comment hblank hcomment h =>
            replace hcomment := hstart.symm.trans hcomment
            obtain ⟨hend', hmore⟩ := divides_afterLine_append hd hcomment hend
            obtain ⟨before, after, hls, hbefore, hafter⟩ :=
              ih _ (afterLine_length_lt hcomment) hend' ((hmore ls).mp h) rfl
            exact ⟨before, after, hls, .comment hblank hcomment hbefore, hafter⟩
        | lexeme hblank hcomment hfirst h =>
            replace hcomment := hstart.symm.trans hcomment
            obtain ⟨after', hfirst', rfl⟩ := Lexeme.first_of_append_blank hd hend hfirst
            obtain ⟨before, after, rfl, hbefore, hafter⟩ :=
              ih _ (Lexeme.length_lt_of_first hfirst')
                (hend.imp_left (closes_of_first hcomment hfirst').symm.trans) h rfl
            exact ⟨_ :: before, after, rfl,
              .lexeme hblank hcomment hfirst' hbefore, hafter⟩

/-- **A blank divides a text.** Behind a text that leaves nothing open, any blank
divides what stands before it from what stands behind. Behind any text, a blank
at the very end does nothing. -/
theorem divides_append_blank_iff {d : Char} {cs rest : List Char} {ls : List Lexeme}
    (hd : isBlankChar d = true) (hend : closes cs = true ∨ rest = []) :
    Divides (cs ++ d :: rest) ls ↔
      ∃ before after, ls = before ++ after ∧ Divides cs before ∧ Divides rest after := by
  constructor
  · exact Divides.of_append_blank hd hend
  · rintro ⟨before, after, rfl, hbefore, hafter⟩
    exact hbefore.append_blank hd hend hafter

end QueryBind.Sql
