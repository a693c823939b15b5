import QueryBind.Proofs.Sql.Joining

/-!
# How a text divides

A text divides into blank characters, comments and lexemes. Which statements a
text is depends on its lexemes alone: reading a text is to divide it and to
derive what its lexemes stand for. Of the lexemes of a text something is known
besides: what the letters of a word and the digits of a numeral look like.
-/

namespace QueryBind.Sql

open QueryBind.Text

/-! ## Texts and their lexemes -/

/-- The lexemes of a text, in order. Blank characters and comments stand
between them. -/
inductive Divides : List Char → List Lexeme → Prop where
  | nil : Divides [] []
  | blank {c cs ls} : isBlankChar c = true → Divides cs ls → Divides (c :: cs) ls
  | comment {c cs ls} : isBlankChar c = false → startsComment (c :: cs) = true →
      Divides (afterLine (c :: cs)) ls → Divides (c :: cs) ls
  | lexeme {c cs l rest ls} : isBlankChar c = false →
      startsComment (c :: cs) = false → Lexeme.first c cs = .ok (l, rest) →
      Divides rest ls → Divides (c :: cs) (l :: ls)

/-- The tokens of lexemes, all of them placed where a text begins. -/
def tokensOf (ls : List Lexeme) : List Token := ls.map (·.token Position.start)

@[simp] theorem tokensOf_nil : tokensOf [] = [] := rfl

@[simp] theorem tokensOf_cons (l : Lexeme) (ls : List Lexeme) :
    tokensOf (l :: ls) = l.token Position.start :: tokensOf ls := rfl

@[simp] theorem tokensOf_append (ls ls' : List Lexeme) :
    tokensOf (ls ++ ls') = tokensOf ls ++ tokensOf ls' :=
  List.map_append

theorem tokensOf_ne_finish {ls : List Lexeme} :
    ∀ t ∈ tokensOf ls, t.kind ≠ .finish := by
  intro t ht
  obtain ⟨l, -, rfl⟩ := List.mem_map.mp ht
  exact kind_ne_finish l

theorem Alike.cons_token {ls : List Lexeme} {body : List Token} (l : Lexeme)
    (p : Position) (h : Alike (tokensOf ls) body) :
    Alike (tokensOf (l :: ls)) (l.token p :: body) :=
  congrArg (List.cons (l.kind, l.tokenText)) h

theorem Alike.ne_finish {ts us : List Token} (h : Alike ts us)
    (hts : ∀ t ∈ ts, t.kind ≠ .finish) : ∀ u ∈ us, u.kind ≠ .finish := by
  intro u hu
  have hmem : u.content ∈ ts.map Token.content := h ▸ List.mem_map_of_mem hu
  obtain ⟨t, ht, heq⟩ := List.mem_map.mp hmem
  have hkind : t.kind = u.kind := congrArg Prod.fst heq
  rw [← hkind]
  exact hts t ht

/-! ## Scanning is dividing -/

theorem divides_of_scan {p : Position} {cs : List Char} {ts : List Token}
    (h : scan p cs = .ok ts) :
    ∃ ls body q, Divides cs ls ∧ Alike (tokensOf ls) body ∧
      ts = body ++ [⟨.finish, "", q⟩] := by
  fun_induction scan p cs generalizing ts with
  | case1 p =>
      cases h
      exact ⟨[], [], p, .nil, rfl, rfl⟩
  | case2 p c cs hblank ih =>
      obtain ⟨ls, body, q, hdivides, halike, hts⟩ := ih h
      exact ⟨ls, body, q, .blank hblank hdivides, halike, hts⟩
  | case3 p c cs hblank hcomment ih =>
      obtain ⟨ls, body, q, hdivides, halike, hts⟩ := ih h
      exact ⟨ls, body, q, .comment (by simpa using hblank) hcomment hdivides,
        halike, hts⟩
  | case4 => cases h
  | case5 p c cs hblank hcomment l after hfirst ih =>
      obtain ⟨ts', hscan, rfl⟩ := map_eq_ok_iff.mp h
      obtain ⟨ls, body, q, hdivides, halike, rfl⟩ := ih hscan
      refine ⟨l :: ls, l.token p :: body, q, ?_, halike.cons_token l p, rfl⟩
      exact .lexeme (by simpa using hblank) (by simpa using hcomment) hfirst hdivides

theorem Divides.exists_scan {cs : List Char} {ls : List Lexeme}
    (h : Divides cs ls) (p : Position) :
    ∃ body q, scan p cs = .ok (body ++ [⟨.finish, "", q⟩]) ∧
      Alike (tokensOf ls) body := by
  induction h generalizing p with
  | nil => exact ⟨[], p, by rw [scan]; rfl, rfl⟩
  | blank hblank _ ih =>
      rw [scan, if_pos hblank]
      exact ih _
  | comment hblank hcomment _ ih =>
      rw [scan, if_neg (by simp [hblank]), dif_pos hcomment]
      exact ih _
  | @lexeme c cs l rest ls hblank hcomment hfirst _ ih =>
      obtain ⟨body, q, hscan, halike⟩ := ih (l.past p)
      refine ⟨l.token p :: body, q, ?_, halike.cons_token l p⟩
      rw [scan, if_neg (by simp [hblank]), dif_neg (by simp [hcomment])]
      split
      · next heq =>
          rw [hfirst] at heq
          cases heq
      · next heq =>
          rw [hfirst] at heq
          cases heq
          rw [hscan]
          rfl

/-! ## Reading is dividing and deriving -/

/-- **A text is one statement** exactly if its lexemes stand for a statement
followed by semicolons. -/
theorem ofText_eq_ok_iff {text : String} {st : Statement} :
    Statement.ofText text = .ok st ↔ ∃ ls body rest, Divides text.toList ls ∧
      tokensOf ls = body ++ rest ∧ StatementOf body st ∧ Semicolons rest := by
  constructor
  · intro h
    obtain ⟨ts, hscan, hread⟩ := bind_eq_ok_iff.mp h
    obtain ⟨ls, tokens, q, hdivides, halike, rfl⟩ := divides_of_scan hscan
    obtain ⟨body, rest, hsplit, hbody, hrest⟩ := statement_eq_ok_iff.mp hread
    have htokens : tokens = body ++ rest :=
      (takeWhile_append_finish (halike.ne_finish tokensOf_ne_finish)).symm.trans hsplit
    subst htokens
    obtain ⟨vs, vs', heq, hvs, hvs'⟩ := Alike.append halike.symm
    exact ⟨ls, vs, vs', hdivides, heq, hbody.alike hvs, hrest.alike hvs'⟩
  · rintro ⟨ls, body, rest, hdivides, heq, hbody, hrest⟩
    obtain ⟨tokens, q, hscan, halike⟩ := hdivides.exists_scan Position.start
    have hstop := takeWhile_append_finish (q := q)
      (halike.ne_finish tokensOf_ne_finish)
    rw [heq] at halike
    obtain ⟨vs, vs', rfl, hvs, hvs'⟩ := halike.append
    exact bind_eq_ok_iff.mpr ⟨_, hscan, statement_eq_ok_iff.mpr
      ⟨vs, vs', hstop, hbody.alike hvs, hrest.alike hvs'⟩⟩

/-- **A text is a script** exactly if its lexemes stand for one. -/
theorem ofScript_eq_ok_iff {text : String} {sts : List Statement} :
    Statement.ofScript text = .ok sts ↔
      ∃ ls, Divides text.toList ls ∧ ScriptOf (tokensOf ls) sts := by
  constructor
  · intro h
    obtain ⟨ts, hscan, hread⟩ := bind_eq_ok_iff.mp h
    obtain ⟨ls, tokens, q, hdivides, halike, rfl⟩ := divides_of_scan hscan
    have hscript := statements_eq_ok_iff.mp hread
    have hstop : (Sentence.ofTokens
        (tokens ++ [(⟨.finish, "", q⟩ : Token)])).tokens = tokens :=
      takeWhile_append_finish (halike.ne_finish tokensOf_ne_finish)
    rw [hstop] at hscript
    exact ⟨ls, hdivides, hscript.alike halike.symm⟩
  · rintro ⟨ls, hdivides, hscript⟩
    obtain ⟨tokens, q, hscan, halike⟩ := hdivides.exists_scan Position.start
    refine bind_eq_ok_iff.mpr ⟨_, hscan, statements_eq_ok_iff.mpr ?_⟩
    have hstop : (Sentence.ofTokens
        (tokens ++ [(⟨.finish, "", q⟩ : Token)])).tokens = tokens :=
      takeWhile_append_finish (halike.ne_finish tokensOf_ne_finish)
    rw [hstop]
    exact hscript.alike halike

/-! ## What lexemes look like -/

/-- Letters, digits and underscores, with no digit in front. -/
inductive IsWord : List Char → Prop where
  | of {c cs} : isWordStart c = true → (∀ d ∈ cs, isWordChar d = true) →
      IsWord (c :: cs)

/-- Digits, and at most one point behind the first of them. -/
inductive IsNumeral : List Char → Prop where
  | whole {c ds} : c.isDigit = true → (∀ d ∈ ds, d.isDigit = true) →
      IsNumeral (c :: ds)
  | pointed {c ds es} : c.isDigit = true → (∀ d ∈ ds, d.isDigit = true) →
      (∀ e ∈ es, e.isDigit = true) → IsNumeral (c :: (ds ++ '.' :: es))

theorem IsNumeral.exists_digit {ds : List Char} (h : IsNumeral ds) :
    ∃ c cs, ds = c :: cs ∧ c.isDigit = true := by
  cases h with
  | whole hc _ => exact ⟨_, _, rfl, hc⟩
  | pointed hc _ _ => exact ⟨_, _, rfl, hc⟩

/-- A lexeme looks the way that its name says. -/
def Lexeme.IsFormed : Lexeme → Prop
  | word letters => IsWord letters
  | numeral digits => IsNumeral digits
  | string _ | name _ | mark _ _ => True

theorem isNumeral_splitNumeral {c : Char} (cs : List Char)
    (hc : c.isDigit = true) : IsNumeral (c :: (splitNumeral cs).1) := by
  have hdigits : ∀ cs : List Char, ∀ d ∈ cs.takeWhile Char.isDigit,
      d.isDigit = true := fun _ _ => List.mem_takeWhile_imp
  unfold splitNumeral
  split
  · exact .pointed hc (hdigits _) (hdigits _)
  · exact .whole hc (hdigits _)

theorem Lexeme.isFormed_of_first {c : Char} {cs rest : List Char} {l : Lexeme}
    (h : first c cs = .ok (l, rest)) : l.IsFormed := by
  unfold first at h
  split at h
  · cases h
    trivial
  split at h
  · split at h <;> cases h
    trivial
  split at h
  · split at h <;> cases h
    trivial
  split at h
  · next hdigit =>
      cases h
      exact isNumeral_splitNumeral cs hdigit
  split at h
  · split at h <;> cases h
    trivial
  split at h
  · split at h <;> cases h <;> trivial
  split at h
  · split at h <;> cases h <;> trivial
  split at h
  · next hstart =>
      cases h
      exact .of hstart fun _ => List.mem_takeWhile_imp
  · cases h

theorem Divides.isFormed {cs : List Char} {ls : List Lexeme}
    (h : Divides cs ls) : ∀ l ∈ ls, l.IsFormed := by
  induction h with
  | nil => simp
  | blank _ _ ih => exact ih
  | comment _ _ _ ih => exact ih
  | lexeme _ _ hfirst _ ih =>
      rw [List.forall_mem_cons]
      exact ⟨Lexeme.isFormed_of_first hfirst, ih⟩

end QueryBind.Sql
