import Mathlib
import QueryBind.Proofs.Results
import QueryBind.Sql.Scan

/-!
# Scanning a text piece by piece

A text that scans may be continued after a line feed: its tokens stay as they
are, and the rest is scanned from the place behind the line feed as if it
stood alone. Where a text begins moves its tokens and changes nothing else of
them, so two scans of one text are alike.
-/

namespace QueryBind.Sql

open QueryBind.Text

/-! ## A blank character ends every lexeme -/

theorem takeWhile_append_stop {p : Char → Bool} {c : Char} (as bs : List Char)
    (h : p c = false) : (as ++ c :: bs).takeWhile p = as.takeWhile p := by
  induction as with
  | nil => simp [h]
  | cons a as ih => simp [List.takeWhile_cons, ih]

theorem dropWhile_append_stop {p : Char → Bool} {c : Char} (as bs : List Char)
    (h : p c = false) :
    (as ++ c :: bs).dropWhile p = as.dropWhile p ++ c :: bs := by
  induction as with
  | nil => simp [h]
  | cons a as ih =>
      rw [List.cons_append, List.dropWhile_cons, List.dropWhile_cons, ih]
      split <;> rfl

/-- No blank character lies among the visible characters of ASCII. -/
theorem toNat_of_isBlankChar {c : Char} (h : isBlankChar c = true) :
    c.toNat ≤ 32 ∨ 133 ≤ c.toNat := by
  simp only [isBlankChar, Bool.or_eq_true, Bool.and_eq_true,
    decide_eq_true_eq, beq_iff_eq] at h
  omega

theorem ne_of_isBlankChar {c d : Char} (h : isBlankChar c = true)
    (hlow : 32 < d.toNat) (hhigh : d.toNat < 133) : c ≠ d := by
  rintro rfl
  have := toNat_of_isBlankChar h
  omega

theorem isWordChar_of_isBlankChar {c : Char} (h : isBlankChar c = true) :
    isWordChar c = false := by
  have hrange := toNat_of_isBlankChar h
  have hline : c ≠ '_' := ne_of_isBlankChar h (by decide) (by decide)
  simp [isWordChar, Char.isAlphanum, Char.isAlpha, Char.isUpper, Char.isLower,
    Char.isDigit, UInt32.le_iff_toNat_le, hline]
  omega

theorem isDigit_of_isBlankChar {c : Char} (h : isBlankChar c = true) :
    c.isDigit = false := by
  have hword := isWordChar_of_isBlankChar h
  simp only [isWordChar, Char.isAlphanum, Bool.or_eq_false_iff] at hword
  exact hword.1.2

theorem splitNumeral_append_blank {c : Char} (cs rest : List Char)
    (h : isBlankChar c = true) :
    splitNumeral (cs ++ c :: rest) =
      ((splitNumeral cs).1, (splitNumeral cs).2 ++ c :: rest) := by
  have hdigit := isDigit_of_isBlankChar h
  have hpoint : c ≠ '.' := ne_of_isBlankChar h (by decide) (by decide)
  unfold splitNumeral
  rw [takeWhile_append_stop cs rest hdigit, dropWhile_append_stop cs rest hdigit]
  cases cs.dropWhile Char.isDigit with
  | nil =>
      rw [List.nil_append]
      split
      · next heq => exact absurd (List.cons.inj heq).1 hpoint
      · rfl
  | cons d ds =>
      rw [List.cons_append]
      by_cases hd : d = '.'
      · subst hd
        simp [takeWhile_append_stop ds rest hdigit,
          dropWhile_append_stop ds rest hdigit]
      · split
        · next heq => exact absurd (List.cons.inj heq).1 hd
        · split
          · next heq => exact absurd (List.cons.inj heq).1 hd
          · rfl

theorem quotedBody_append {quote c : Char} {cs content after : List Char}
    (rest : List Char) (hc : c ≠ quote)
    (h : quotedBody quote cs = some (content, after)) :
    quotedBody quote (cs ++ c :: rest) = some (content, after ++ c :: rest) := by
  fun_induction quotedBody quote cs generalizing content after with
  | case1 => cases h
  | case2 => simp_all [quotedBody]
  | case3 => cases h
  | case4 tail ih =>
      obtain ⟨⟨content', after'⟩, hbody, heq⟩ := Option.map_eq_some_iff.mp h
      cases heq
      simp [quotedBody, ih hbody]
  | case5 d tail hd =>
      cases h
      rw [List.cons_append, List.cons_append, quotedBody]
      simp [hd]
  | case6 d e tail hd ih =>
      obtain ⟨⟨content', after'⟩, hbody, heq⟩ := Option.map_eq_some_iff.mp h
      cases heq
      have hmore := ih hbody
      rw [List.cons_append] at hmore
      simp [quotedBody, hd, hmore]

theorem append_ne_cons {c d : Char} {cs rest ds : List Char}
    (hcs : ∀ ds, cs = d :: ds → False) (hc : c ≠ d) :
    cs ++ c :: rest ≠ d :: ds := by
  cases cs with
  | nil => exact fun heq => hc (List.cons.inj heq).1
  | cons e es =>
      intro heq
      exact hcs es (by rw [(List.cons.inj heq).1])

/-- **A blank character ends every lexeme.** What a text begins with stays its
first lexeme when a blank character and anything else is put behind it. -/
theorem Lexeme.first_append_blank {c d : Char} {cs after : List Char}
    {l : Lexeme} (rest : List Char) (hd : isBlankChar d = true)
    (h : Lexeme.first c cs = .ok (l, after)) :
    Lexeme.first c (cs ++ d :: rest) = .ok (l, after ++ d :: rest) := by
  have hne : ∀ {e : Char}, 32 < e.toNat → e.toNat < 133 → d ≠ e :=
    ne_of_isBlankChar hd
  -- Branch by branch of `first`; the blank is never what a branch looks for.
  unfold Lexeme.first at h ⊢
  split at h
  · cases h
    rfl
  split at h
  · next hq =>
      -- A string: it is closed within `cs`, so the blank is behind it.
      rw [if_pos hq]
      split at h
      · next hbody =>
          cases h
          rw [quotedBody_append rest (hne (by decide) (by decide)) hbody]
      · cases h
  next hq =>
  rw [if_neg hq]
  split at h
  · next hq' =>
      rw [if_pos hq']
      split at h
      · next hbody =>
          cases h
          rw [quotedBody_append rest (hne (by decide) (by decide)) hbody]
      · cases h
  next hq' =>
  rw [if_neg hq']
  split at h
  · next hdigit =>
      -- A numeral: the blank is no digit, and no dot before one.
      rw [if_pos hdigit, splitNumeral_append_blank cs rest hd]
      cases h
      rfl
  next hdigit =>
  rw [if_neg hdigit]
  split at h
  · next hbang =>
      rw [if_pos hbang]
      split at h
      · cases h
        rfl
      · cases h
  next hbang =>
  rw [if_neg hbang]
  split at h
  · next hless =>
      rw [if_pos hless]
      split at h
      · cases h
        rfl
      · cases h
        rfl
      · next hequal hunequal =>
          -- The sign alone: the blank does not make it one of two characters.
          cases h
          split
          · next heq =>
              exact absurd heq (append_ne_cons hequal
                (hne (by decide) (by decide)))
          · next heq =>
              exact absurd heq (append_ne_cons hunequal
                (hne (by decide) (by decide)))
          · rfl
  next hless =>
  rw [if_neg hless]
  split at h
  · next hgreater =>
      rw [if_pos hgreater]
      split at h
      · cases h
        rfl
      · next hequal =>
          cases h
          split
          · next heq =>
              exact absurd heq (append_ne_cons hequal
                (hne (by decide) (by decide)))
          · rfl
  next hgreater =>
  rw [if_neg hgreater]
  split at h
  · next hword =>
      rw [if_pos hword, takeWhile_append_stop cs rest (isWordChar_of_isBlankChar hd),
        dropWhile_append_stop cs rest (isWordChar_of_isBlankChar hd)]
      cases h
      rfl
  · cases h

/-! ## Continuing a text -/

theorem isBlankChar_lineFeed : isBlankChar '\n' = true := by decide

theorem startsComment_append_blank {d : Char} {cs : List Char} (rest : List Char)
    (hd : isBlankChar d = true) (hne : cs ≠ []) :
    startsComment (cs ++ d :: rest) = startsComment cs := by
  have hminus : d ≠ '-' := ne_of_isBlankChar hd (by decide) (by decide)
  match cs, hne with
  | [c], _ =>
      by_cases hc : c = '-' <;> simp [startsComment, hc, hminus]
  | c :: e :: cs, _ =>
      by_cases hc : c = '-' <;> by_cases he : e = '-' <;>
        simp [startsComment, hc, he]

theorem kind_ne_finish (l : Lexeme) : l.kind ≠ .finish := by
  cases l <;> simp [Lexeme.kind]
  split <;> simp

/-- **A text may be continued after a line feed.** A text that scans gives its
tokens and the one `finish` token behind them; when a line feed and a rest
follow it, its tokens stay and the rest is scanned from the next line on. -/
theorem scan_append_lineFeed {p : Position} {cs : List Char} {ts : List Token}
    (h : scan p cs = .ok ts) :
    ∃ body q, ts = body ++ [⟨.finish, "", q⟩] ∧
      (∀ t ∈ body, t.kind ≠ .finish) ∧
      ∀ rest, scan p (cs ++ '\n' :: rest) =
        (scan (q.next '\n') rest).map (body ++ ·) := by
  fun_induction scan p cs generalizing ts with
  | case1 p =>
      cases h
      refine ⟨[], p, rfl, by simp, fun rest => ?_⟩
      rw [List.nil_append, scan, if_pos isBlankChar_lineFeed]
      cases scan (p.next '\n') rest <;> rfl
  | case2 p c cs hblank ih =>
      obtain ⟨body, q, hts, hbody, hmore⟩ := ih h
      refine ⟨body, q, hts, hbody, fun rest => ?_⟩
      rw [List.cons_append, scan, if_pos hblank]
      exact hmore rest
  | case3 p c cs hblank hcomment ih =>
      obtain ⟨body, q, hts, hbody, hmore⟩ := ih h
      refine ⟨body, q, hts, hbody, fun rest => ?_⟩
      have hstart : startsComment (c :: (cs ++ '\n' :: rest)) = true := by
        rw [← List.cons_append,
          startsComment_append_blank rest isBlankChar_lineFeed (by simp)]
        exact hcomment
      have hline : restOfLine (c :: (cs ++ '\n' :: rest)) =
          restOfLine (c :: cs) :=
        takeWhile_append_stop (c :: cs) rest (by decide)
      have hafter : afterLine (c :: (cs ++ '\n' :: rest)) =
          afterLine (c :: cs) ++ '\n' :: rest :=
        dropWhile_append_stop (c :: cs) rest (by decide)
      rw [List.cons_append, scan, if_neg hblank, dif_pos hstart, hline, hafter]
      exact hmore rest
  | case4 => cases h
  | case5 p c cs hblank hcomment l after hfirst ih =>
      obtain ⟨ts', hscan, rfl⟩ := map_eq_ok_iff.mp h
      obtain ⟨body, q, hts, hbody, hmore⟩ := ih hscan
      refine ⟨l.token p :: body, q, by simp [hts], ?_, fun rest => ?_⟩
      · simpa [Lexeme.token, kind_ne_finish] using hbody
      · have hstart : ¬ startsComment (c :: (cs ++ '\n' :: rest)) = true := by
          rw [← List.cons_append,
            startsComment_append_blank rest isBlankChar_lineFeed (by simp)]
          exact hcomment
        rw [List.cons_append, scan, if_neg hblank, dif_neg hstart]
        have hfirst' := Lexeme.first_append_blank rest isBlankChar_lineFeed hfirst
        split
        · next heq =>
            rw [hfirst'] at heq
            cases heq
        · next heq =>
            rw [hfirst'] at heq
            cases heq
            rw [hmore rest]
            cases scan (q.next '\n') rest <;> rfl

/-! ## Places -/

/-- Two tokens that differ in their places only. -/
def Token.content (t : Token) : TokenKind × String := (t.kind, t.text)

/-- Two lists of tokens that differ in their places only. -/
def Alike (ts us : List Token) : Prop :=
  ts.map Token.content = us.map Token.content

/-- Where a text begins has no influence on what its tokens are. -/
theorem scan_alike {p q : Position} {cs : List Char} {ts : List Token}
    (h : scan p cs = .ok ts) : ∃ us, scan q cs = .ok us ∧ Alike ts us := by
  fun_induction scan p cs generalizing q ts with
  | case1 p =>
      cases h
      exact ⟨[⟨.finish, "", q⟩], by rw [scan], rfl⟩
  | case2 p c cs hblank ih =>
      rw [scan, if_pos hblank]
      exact ih h
  | case3 p c cs hblank hcomment ih =>
      rw [scan, if_neg hblank, dif_pos hcomment]
      exact ih h
  | case4 => cases h
  | case5 p c cs hblank hcomment l after hfirst ih =>
      obtain ⟨ts', hscan, rfl⟩ := map_eq_ok_iff.mp h
      obtain ⟨us, hus, halike⟩ := ih hscan
      rw [scan, if_neg hblank, dif_neg hcomment]
      split
      · next heq =>
          rw [hfirst] at heq
          cases heq
      · next heq =>
          rw [hfirst] at heq
          cases heq
          exact ⟨l.token q :: us, by rw [hus]; rfl,
            congrArg (List.cons (l.kind, l.tokenText)) halike⟩

end QueryBind.Sql
