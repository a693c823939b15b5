import Mathlib.Data.List.Forall2
import QueryBind.Proofs.Sql.Places

/-!
# Joined texts

Texts of one statement each, joined by semicolons on lines of their own, are a
script of those statements. The line feed before a semicolon closes whatever
the text before it leaves open, a comment above all, so the tokens of the parts
stand in the whole with nothing but their places changed.
-/

namespace QueryBind.Sql

/-! ## The token at the end -/

theorem takeWhile_append_finish {body : List Token} {q : Position}
    (h : ∀ t ∈ body, t.kind ≠ .finish) :
    (body ++ [(⟨.finish, "", q⟩ : Token)]).takeWhile (!·.isFinish) = body := by
  rw [List.takeWhile_append_of_pos (by simpa [Token.isFinish] using h)]
  simp [Token.isFinish]

theorem Alike.of_append_single {ts us : List Token} {t u : Token}
    (h : Alike (ts ++ [t]) (us ++ [u])) : Alike ts us := by
  obtain ⟨vs, vs', heq, hvs, hvs'⟩ := h.append
  obtain ⟨v, rfl, -⟩ := hvs'.single
  rwa [(List.append_inj' heq rfl).1]

/-! ## One text -/

/-- A text of one statement, begun at any place: its tokens are a statement and
semicolons, and stay so when a line feed and a rest follow. -/
theorem scan_statement {text : String} {st : Statement}
    (h : Statement.ofText text = .ok st) (p : Position) :
    ∃ body semicolons q, StatementOf body st ∧ Semicolons semicolons ∧
      (∀ t ∈ body ++ semicolons, t.kind ≠ .finish) ∧
      scan p text.toList = .ok (body ++ semicolons ++ [⟨.finish, "", q⟩]) ∧
      ∀ rest, scan p (text.toList ++ '\n' :: rest) =
        (scan (q.next '\n') rest).map (body ++ semicolons ++ ·) := by
  obtain ⟨ts, hscan, hstatement⟩ := bind_eq_ok_iff.mp h
  obtain ⟨us, hus, halike⟩ := @scan_alike _ p _ _ hscan
  obtain ⟨first, q₀, rfl, hfirst, -⟩ := scan_append_lineFeed hscan
  obtain ⟨tokens, q, rfl, htokens, hmore⟩ := scan_append_lineFeed hus
  obtain ⟨body₀, rest₀, hsplit, hbody, hrest⟩ :=
    statement_eq_ok_iff.mp hstatement
  -- What the statement was read off is the same as `tokens`, up to places.
  have hfirst_eq : first = body₀ ++ rest₀ :=
    (takeWhile_append_finish hfirst).symm.trans hsplit
  subst hfirst_eq
  obtain ⟨body, semicolons, rfl, hb, hs⟩ := halike.of_append_single.append
  exact ⟨body, semicolons, q, hbody.alike hb, hrest.alike hs, htokens, hus, hmore⟩

/-! ## Several texts -/

theorem ScriptOf.semicolons {semicolons ts : List Token} {sts : List Statement}
    (hs : Semicolons semicolons) (h : ScriptOf ts sts) :
    ScriptOf (semicolons ++ ts) sts := by
  induction semicolons with
  | nil => exact h
  | cons t semicolons ih =>
      have hrest : Semicolons semicolons :=
        fun u hu => hs u (List.mem_cons_of_mem _ hu)
      exact (ih hrest).semicolon (hs t List.mem_cons_self)

/-- A statement and a gap may be put in front of any script. -/
theorem ScriptOf.statement_gap {body gap ts : List Token} {st : Statement}
    {sts : List Statement} (hst : StatementOf body st) (hgap : Gap gap)
    (h : ScriptOf ts sts) : ScriptOf (body ++ gap ++ ts) (st :: sts) := by
  obtain ⟨t, gap, rfl⟩ := List.exists_cons_of_ne_nil hgap.1
  have hrest : Semicolons gap := fun u hu => hgap.2 u (List.mem_cons_of_mem _ hu)
  rw [List.append_assoc]
  exact (h.semicolons hrest).statement hst (hgap.2 t List.mem_cons_self)

/-- Texts that are read as statements, one each. -/
abbrev ReadAs (texts : List String) (sts : List Statement) : Prop :=
  List.Forall₂ (fun text st => Statement.ofText text = .ok st) texts sts

/-- A semicolon that ends a line gives its token, and the next line is scanned
from where it begins. -/
theorem scan_semicolon_line (p : Position) (rest : List Char) :
    ∃ t q, t.kind = .mark .semicolon ∧
      scan p (';' :: '\n' :: rest) = (scan q rest).map (t :: ·) := by
  have hfirst : Lexeme.first ';' ('\n' :: rest) =
      .ok (.mark .semicolon [';'], '\n' :: rest) := rfl
  refine ⟨(Lexeme.mark .semicolon [';']).token p,
    ((Lexeme.mark .semicolon [';']).past p).next '\n', rfl, ?_⟩
  rw [scan, if_neg (by decide), dif_neg (by simp [startsComment])]
  split
  · next heq =>
      rw [hfirst] at heq
      cases heq
  · next heq =>
      rw [hfirst] at heq
      cases heq
      rw [scan, if_pos isBlankChar_lineFeed]

/-- Joined texts scan to a script of their statements, whatever comments and
semicolons the texts end in. -/
theorem scan_intercalate {texts : List String} {sts : List Statement}
    (h : ReadAs texts sts) (p : Position) :
    ∃ body q, scan p ("\n;\n".intercalate texts).toList =
        .ok (body ++ [⟨.finish, "", q⟩]) ∧
      (∀ t ∈ body, t.kind ≠ .finish) ∧ ScriptOf body sts := by
  induction h generalizing p with
  | nil =>
      refine ⟨[], p, ?_, by simp, .empty (by simp [Semicolons])⟩
      rw [String.intercalate_nil, String.toList_empty, scan]
      rfl
  | @cons text st texts sts hst htexts ih =>
      obtain ⟨body, semicolons, q, hbody, hsemicolons, htokens, hscan, hmore⟩ :=
        scan_statement hst p
      cases htexts with
      | nil =>
          refine ⟨body ++ semicolons, q, ?_, htokens, ?_⟩
          · rw [String.intercalate_singleton]
            exact hscan
          · exact @ScriptOf.statements [] body semicolons [st]
              (by simp [Semicolons]) (.single hbody) hsemicolons
      | @cons text' st' texts' sts' hst' htexts' =>
          -- The text, the line feed that ends it, the semicolon, and the rest.
          have hlist : ("\n;\n".intercalate (text :: text' :: texts')).toList =
              text.toList ++ '\n' :: ';' :: '\n' ::
                ("\n;\n".intercalate (text' :: texts')).toList := by
            rw [String.intercalate_cons_cons]
            simp
          obtain ⟨t, q', ht, hline⟩ := scan_semicolon_line (q.next '\n')
            ("\n;\n".intercalate (text' :: texts')).toList
          obtain ⟨rest, q'', hrest, hrest_tokens, hscript⟩ := ih q'
          have hgap : Gap (semicolons ++ [t]) := by
            refine ⟨by simp, fun u hu => ?_⟩
            rcases List.mem_append.mp hu with hu | hu
            · exact hsemicolons u hu
            · rw [List.mem_singleton.mp hu, ht]
          refine ⟨body ++ (semicolons ++ [t]) ++ rest, q'', ?_, ?_,
            .statement_gap hbody hgap hscript⟩
          · rw [hlist, hmore, hline, hrest]
            simp [Except.map]
          · intro u hu
            rcases List.mem_append.mp hu with hu | hu
            · rcases List.mem_append.mp hu with hu | hu
              · exact htokens u (List.mem_append_left _ hu)
              · rw [hgap.2 u hu]
                simp
            · exact hrest_tokens u hu

/-- The script of joined texts is the list of their statements. -/
theorem ofScript_intercalate {texts : List String} {sts : List Statement}
    (h : ReadAs texts sts) :
    Statement.ofScript ("\n;\n".intercalate texts) = .ok sts := by
  obtain ⟨body, q, hscan, hbody, hscript⟩ := scan_intercalate h Position.start
  refine bind_eq_ok_iff.mpr ⟨_, hscan, statements_eq_ok_iff.mpr ?_⟩
  show ScriptOf ((body ++ [(⟨.finish, "", q⟩ : Token)]).takeWhile (!·.isFinish)) sts
  rwa [takeWhile_append_finish hbody]

end QueryBind.Sql
