import QueryBind.Proofs.Sql.Writing

/-!
# Gaps between texts

Two texts may be set apart by any layout that begins with a line feed: blank
characters, and comments with their line feeds. The line feed ends whatever the
first text ends in, a word, a numeral, half an operator or a comment, and the rest
of the layout is passed over. So the second text gives the tokens, or the fault,
that it gives alone, and only its places have moved.
-/

namespace QueryBind.Sql

open QueryBind.Text

/-! ## Layout -/

/-- Blank characters and whole comments, each with the line feed that ends it. -/
inductive IsLayout : List Char → Prop where
  | nil : IsLayout []
  | blank {c cs} : isBlankChar c = true → IsLayout cs → IsLayout (c :: cs)
  | comment {line cs} : '\n' ∉ line → IsLayout cs →
      IsLayout ('-' :: '-' :: (line ++ '\n' :: cs))

/-- Layout that begins with a line feed. -/
structure IsGap (cs : List Char) : Prop where
  head : cs.head? = some '\n'
  layout : IsLayout cs

theorem IsGap.exists_layout {cs : List Char} (h : IsGap cs) :
    ∃ rest, cs = '\n' :: rest ∧ IsLayout rest := by
  obtain ⟨hhead, hlayout⟩ := h
  cases hlayout with
  | nil => cases hhead
  | blank _ hrest =>
      cases hhead
      exact ⟨_, rfl, hrest⟩
  | comment => simp at hhead

/-- Layout in front of a text only moves the place where the text begins. -/
theorem IsLayout.exists_scan_eq {cs : List Char} (h : IsLayout cs) (p : Position)
    (rest : List Char) : ∃ q, scan p (cs ++ rest) = scan q rest := by
  induction h generalizing p with
  | nil => exact ⟨p, rfl⟩
  | blank hblank _ ih =>
      obtain ⟨q, hq⟩ := ih (p.next _)
      exact ⟨q, by rw [List.cons_append, scan, if_pos hblank, hq]⟩
  | @comment line cs hline _ ih =>
      -- The comment is passed up to its line feed, which is then a blank character.
      have hafter : afterLine ('-' :: '-' :: (line ++ '\n' :: (cs ++ rest))) =
          '\n' :: (cs ++ rest) := afterLine_comment hline (by simp)
      obtain ⟨q, hq⟩ := ih ((p.after (restOfLine _)).next '\n')
      refine ⟨q, ?_⟩
      have hstart : startsComment ('-' :: '-' :: (line ++ '\n' :: (cs ++ rest))) = true := rfl
      rw [List.cons_append, List.cons_append, List.append_assoc, List.cons_append, scan,
        if_neg (by decide), dif_pos hstart, hafter, scan, if_pos isBlankChar_lineFeed]
      exact hq

/-! ## Faults -/

/-- Where a text begins has no influence on what is wrong with it. -/
theorem scan_refused {p : Position} {cs : List Char} {e : ParseError}
    (h : scan p cs = .error e) : ∃ fault r, e = .lexical fault r ∧
      ∀ q, ∃ s, scan q cs = .error (.lexical fault s) := by
  fun_induction scan p cs with
  | case1 => cases h
  | case2 p c cs hblank ih =>
      obtain ⟨fault, r, he, hmoved⟩ := ih h
      refine ⟨fault, r, he, fun q => ?_⟩
      rw [scan, if_pos hblank]
      exact hmoved _
  | case3 p c cs hblank hcomment ih =>
      obtain ⟨fault, r, he, hmoved⟩ := ih h
      refine ⟨fault, r, he, fun q => ?_⟩
      rw [scan, if_neg hblank, dif_pos hcomment]
      exact hmoved _
  | case4 p c cs hblank hcomment fault hfirst =>
      cases h
      refine ⟨fault, p, rfl, fun q => ⟨q, ?_⟩⟩
      rw [scan, if_neg hblank, dif_neg hcomment]
      split
      · next heq =>
          rw [hfirst] at heq
          cases heq
          rfl
      · next heq =>
          rw [hfirst] at heq
          cases heq
  | case5 p c cs hblank hcomment l after hfirst ih =>
      have hrest : scan (l.past p) after = .error e := by
        cases hscan : scan (l.past p) after with
        | ok ts =>
            rw [hscan] at h
            cases h
        | error e' =>
            rw [hscan] at h
            cases h
            rfl
      obtain ⟨fault, r, he, hmoved⟩ := ih hrest
      refine ⟨fault, r, he, fun q => ?_⟩
      obtain ⟨s, hs⟩ := hmoved (l.past q)
      refine ⟨s, ?_⟩
      rw [scan, if_neg hblank, dif_neg hcomment]
      split
      · next heq =>
          rw [hfirst] at heq
          cases heq
      · next heq =>
          rw [hfirst] at heq
          cases heq
          rw [hs]
          rfl

/-! ## Two texts -/

theorem scan_append_gap {p : Position} {cs gap : List Char} {ts : List Token}
    (hcs : scan p cs = .ok ts) (hgap : IsGap gap) :
    ∃ body q, ts = body ++ [⟨.finish, "", q⟩] ∧
      ∀ rest, ∃ r, scan p (cs ++ gap ++ rest) = (scan r rest).map (body ++ ·) := by
  obtain ⟨layout, rfl, hlayout⟩ := hgap.exists_layout
  obtain ⟨body, q, hts, -, hmore⟩ := scan_append_lineFeed hcs
  refine ⟨body, q, hts, fun rest => ?_⟩
  obtain ⟨r, hr⟩ := hlayout.exists_scan_eq (q.next '\n') rest
  refine ⟨r, ?_⟩
  rw [List.append_assoc, List.cons_append, hmore, hr]

/-- **Layout never changes the tokens.** Behind a text that has tokens, and a gap,
stands what it would be alone: if a second text has tokens, then those of the first
without its end and those of the second make up the whole; and if it is refused,
then the whole is refused for the same fault. -/
theorem tokenize_append_gap {first gap : String} {tokens : List Token}
    (hfirst : tokenize first = .ok tokens) (hgap : IsGap gap.toList) :
    ∃ body pos, tokens = body ++ [⟨.finish, "", pos⟩] ∧ ∀ second : String,
      (∀ more, tokenize second = .ok more → ∃ moved,
        tokenize (first ++ gap ++ second) = .ok (body ++ moved) ∧
          moved.map (fun t => (t.kind, t.text)) = more.map (fun t => (t.kind, t.text))) ∧
      ∀ e, tokenize second = .error e → ∃ fault r s, e = .lexical fault r ∧
        tokenize (first ++ gap ++ second) = .error (.lexical fault s) := by
  obtain ⟨body, pos, htokens, hmore⟩ := scan_append_gap hfirst hgap
  refine ⟨body, pos, htokens, fun second => ?_⟩
  obtain ⟨r, hr⟩ := hmore second.toList
  have hwhole : tokenize (first ++ gap ++ second) =
      (scan r second.toList).map (body ++ ·) := by
    rw [tokenize, String.toList_append, String.toList_append, hr]
  rw [hwhole]
  constructor
  · intro more hsecond
    obtain ⟨moved, hmoved, halike⟩ := @scan_alike _ r _ _ hsecond
    exact ⟨moved, by rw [hmoved]; rfl, halike.symm⟩
  · intro e hsecond
    obtain ⟨fault, q, he, hfault⟩ := scan_refused hsecond
    obtain ⟨s, hs⟩ := hfault r
    exact ⟨fault, q, s, he, by rw [hs]; rfl⟩

/-- The first text ends in a comment, which the line feed of the gap ends. -/
theorem tokenize_append_gap_comment :
    let body : List Token := [⟨.identifier "a", "a", ⟨1, 1⟩⟩, ⟨.mark .lessThan, "<", ⟨1, 2⟩⟩]
    tokenize "a<--x" = .ok (body ++ [⟨.finish, "", ⟨1, 6⟩⟩]) ∧ IsGap "\n--y\n\t".toList ∧
      tokenize "=" = .ok [⟨.mark .equals, "=", ⟨1, 1⟩⟩, ⟨.finish, "", ⟨1, 2⟩⟩] ∧
      (∃ moved, tokenize ("a<--x" ++ "\n--y\n\t" ++ "=") = .ok (body ++ moved) ∧
        moved.map (fun t => (t.kind, t.text)) = [(.mark .equals, "="), (.finish, "")]) ∧
      tokenize "!" = .error (.lexical .loneBang ⟨1, 1⟩) ∧
      ∃ s, tokenize ("a<--x" ++ "\n--y\n\t" ++ "!") = .error (.lexical .loneBang s) := by
  intro body
  have hfirst : tokenize "a<--x" = .ok (body ++ [⟨.finish, "", ⟨1, 6⟩⟩]) := by cbv
  have hequals : tokenize "=" =
      .ok [⟨.mark .equals, "=", ⟨1, 1⟩⟩, ⟨.finish, "", ⟨1, 2⟩⟩] := by cbv
  have hbang : tokenize "!" = .error (.lexical .loneBang ⟨1, 1⟩) := by cbv
  have hgap : IsGap "\n--y\n\t".toList :=
    ⟨rfl, .blank (by decide) (@IsLayout.comment ['y'] ['\t'] (by decide)
      (.blank (by decide) .nil))⟩
  obtain ⟨body', pos, htokens, hwhole⟩ := tokenize_append_gap hfirst hgap
  obtain rfl : body = body' := (List.append_inj' htokens rfl).1
  obtain ⟨fault, r, s, he, hrefused⟩ := (hwhole "!").2 _ hbang
  cases he
  exact ⟨hfirst, hgap, hequals, (hwhole "=").1 _ hequals, hbang, s, hrefused⟩

end QueryBind.Sql
