/-!
# Quoted text

A quoted text stands between two quotes, and a quote inside it is written twice. `quotedBody`
reads what follows an opening quote up to the closing one, `writeQuoted` writes a content with
both quotes. Reading what was written gives the content back (`quotedBody_writeBody`), and what
was read is what would be written (`eq_writeBody_of_quotedBody`).
-/

namespace QueryBind.Text

/-- Content and rest of a text whose opening quote has been taken; nothing if it is not closed. -/
def quotedBody (quote : Char) : List Char → Option (List Char × List Char)
  | [] => none
  | [c] => if c = quote then some ([], []) else none
  | c :: d :: rest =>
    if c = quote then
      if d = quote then
        (quotedBody quote rest).map fun (content, after) => (quote :: content, after)
      else some ([], d :: rest)
    else (quotedBody quote (d :: rest)).map fun (content, after) => (c :: content, after)

/-- A content with its quotes written twice. -/
def doubleQuotes (quote : Char) (content : List Char) : List Char :=
  content.flatMap fun c => if c = quote then [quote, quote] else [c]

/-- A content as it stands after the opening quote, the closing one included. -/
def writeBody (quote : Char) (content : List Char) : List Char :=
  doubleQuotes quote content ++ [quote]

/-- A content between quotes. -/
def writeQuoted (quote : Char) (content : List Char) : List Char :=
  quote :: writeBody quote content

theorem doubleQuotes_cons_self (quote : Char) (content : List Char) :
    doubleQuotes quote (quote :: content) = quote :: quote :: doubleQuotes quote content := by
  simp [doubleQuotes]

theorem doubleQuotes_cons_of_ne {quote c : Char} (content : List Char) (h : c ≠ quote) :
    doubleQuotes quote (c :: content) = c :: doubleQuotes quote content := by
  simp [doubleQuotes, h]

theorem writeBody_cons_self (quote : Char) (content : List Char) :
    writeBody quote (quote :: content) = quote :: quote :: writeBody quote content := by
  rw [writeBody, doubleQuotes_cons_self]
  rfl

theorem writeBody_cons_of_ne {quote c : Char} (content : List Char) (h : c ≠ quote) :
    writeBody quote (c :: content) = c :: writeBody quote content := by
  rw [writeBody, doubleQuotes_cons_of_ne content h]
  rfl

/-- What was read is what would be written. -/
theorem eq_writeBody_of_quotedBody {quote : Char} {cs content rest : List Char}
    (h : quotedBody quote cs = some (content, rest)) :
    cs = writeBody quote content ++ rest := by
  fun_induction quotedBody quote cs generalizing content rest with
  | case1 => simp at h
  | case2 => simp_all [writeBody, doubleQuotes]
  | case3 => simp at h
  | case4 tail ih =>
    obtain ⟨⟨content', rest'⟩, hbody, heq⟩ := Option.map_eq_some_iff.1 h
    simp only [Prod.mk.injEq] at heq
    obtain ⟨rfl, rfl⟩ := heq
    have := ih hbody
    simp_all [writeBody, doubleQuotes]
  | case5 => simp_all [writeBody, doubleQuotes]
  | case6 c d tail hc ih =>
    obtain ⟨⟨content', rest'⟩, hbody, heq⟩ := Option.map_eq_some_iff.1 h
    simp only [Prod.mk.injEq] at heq
    obtain ⟨rfl, rfl⟩ := heq
    have := ih hbody
    simp_all [writeBody, doubleQuotes]

/-- Reading what was written gives the content back, unless one more quote follows it. -/
theorem quotedBody_writeBody {quote : Char} {rest : List Char} (content : List Char)
    (hrest : rest.head? ≠ some quote) :
    quotedBody quote (writeBody quote content ++ rest) = some (content, rest) := by
  induction content with
  | nil =>
    cases rest with
    | nil => simp [writeBody, doubleQuotes, quotedBody]
    | cons d tail =>
      have hd : d ≠ quote := by simpa using hrest
      simp [writeBody, doubleQuotes, quotedBody, hd]
  | cons c content ih =>
    by_cases hc : c = quote
    · subst hc
      simp [writeBody_cons_self, quotedBody, ih]
    · -- At least the closing quote stands behind the character.
      obtain ⟨d, tail, htail⟩ : ∃ d tail, writeBody quote content ++ rest = d :: tail :=
        List.exists_cons_of_ne_nil (by simp [writeBody])
      rw [writeBody_cons_of_ne content hc, List.cons_append, htail, quotedBody, if_neg hc, ← htail, ih]
      rfl

end QueryBind.Text
