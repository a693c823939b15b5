import Mathlib.Data.List.TakeWhile
import QueryBind.Proofs.Sql.Phrases
import QueryBind.Proofs.Sql.Shapes

/-!
# What the readers of statements accept

The readers of one statement and of a script against the grammar. A statement
is read whole when a semicolon or the end follows it, which is why semicolons
are all that may separate statements. Both entry points accept exactly the
token lists that the grammar derives, and give exactly the derived statements.
-/

namespace QueryBind.Sql

variable (stop : Token)

/-! ## The three statements -/

/-- What could prolong a SELECT. -/
def selectProlonging : List TokenKind :=
  [.mark .comma, .keyword .WHERE, .keyword .AND, .mark .dot]

theorem reads_names :
    Reads (readSeparated (readName stop) (dropMark? .comma)) (Listed NameOf)
      [.mark .comma] :=
  (reads_name stop).separated (by simp)

theorem reads_conditions :
    Reads (readSeparated (readCondition stop) (dropKeyword? .AND))
      (Separated (One (.keyword .AND)) ConditionOf)
      [.keyword .AND, .mark .dot] :=
  (reads_condition stop).separated (by decide)

theorem reads_columns :
    Reads (readSeparated (readColumn stop) (dropMark? .comma))
      (Listed ColumnOf)
      [.mark .comma, .mark .leftParen, .keyword .NOT, .keyword .NULL] :=
  (reads_column stop).separated (by decide)

theorem reads_select : Reads (readSelect stop) SelectOf selectProlonging where
  sound := by
    rintro ts s rest ⟨hlt, h⟩
    unfold readSelect at h
    obtain ⟨⟨_, r₁, h₁⟩, hselect, h⟩ := bind_eq_ok_iff.mp h
    obtain ⟨⟨items, r₂, h₂⟩, hitems, h⟩ := bind_eq_ok_iff.mp h
    obtain ⟨⟨_, r₃, h₃⟩, hfrom, h⟩ := bind_eq_ok_iff.mp h
    obtain ⟨⟨relations, r₄, h₄⟩, hnames, h⟩ := bind_eq_ok_iff.mp h
    obtain ⟨_, hts, select, rfl, hs⟩ :=
      (reads_keyword stop .SELECT).sound (takes_of_ok hselect)
    obtain ⟨is, hr₁, hi⟩ := (reads_items stop).sound (takes_of_ok hitems)
    have hentries := listed_entryOf_iff.mpr ⟨items, hi, rfl⟩
    obtain ⟨_, hr₂, fromWord, rfl, hf⟩ :=
      (reads_keyword stop .FROM).sound (takes_of_ok hfrom)
    obtain ⟨ns, hr₃, hn⟩ := (reads_names stop).sound (takes_of_ok hnames)
    dsimp only at h hts hr₁ hr₂ hr₃
    split at h
    · cases h
      refine ⟨select :: (is ++ fromWord :: (ns ++ [])), ?_,
        .of hs hentries hf hn .none⟩
      simp [hts, hr₁, hr₂, hr₃]
    · next r₅ h₅ hwhere =>
        obtain ⟨t, hr₄, ht⟩ := eq_cons_of_dropKind? hwhere
        obtain ⟨⟨conditions, r₆, h₆⟩, hconditions, h⟩ := bind_eq_ok_iff.mp h
        obtain ⟨cs, hr₅, hc⟩ :=
          (reads_conditions stop).sound (takes_of_ok hconditions)
        cases h
        refine ⟨select :: (is ++ fromWord :: (ns ++ t :: cs)), ?_,
          .of hs hentries hf hn (.some ht hc)⟩
        dsimp only at hr₅
        simp [hts, hr₁, hr₂, hr₃, hr₄, hr₅]
  complete := by
    intro body rest s h hrest
    cases h with
    | @of select is fromWord ns ws attributes names conditions hs hentries hf hn hw =>
        obtain ⟨items, hi, rfl⟩ := listed_entryOf_iff.mp hentries
        obtain ⟨h₁, hselect⟩ :=
          takes_keyword stop (is ++ fromWord :: (ns ++ (ws ++ rest))) hs
        have hbefore : Avoids [.mark .comma, .mark .dot, .mark .leftParen]
            (fromWord :: (ns ++ (ws ++ rest))) := by
          simp [hf]
        obtain ⟨h₂, hitems⟩ := (reads_items stop).complete hi hbefore
        obtain ⟨h₃, hfrom⟩ := takes_keyword stop (ns ++ (ws ++ rest)) hf
        have hafter : Avoids [.mark .comma] (ws ++ rest) := by
          cases hw with
          | none => exact hrest.subset (by simp [selectProlonging])
          | some ht => simp [ht]
        obtain ⟨h₄, hnames⟩ := (reads_names stop).complete hn hafter
        have heq : select :: (is ++ fromWord :: (ns ++ ws)) ++ rest =
            select :: (is ++ fromWord :: (ns ++ (ws ++ rest))) := by
          simp
        rw [heq]
        refine ⟨by
          simp only [List.length_append, List.length_cons]
          omega, ?_⟩
        simp only [readSelect, hselect, ok_bind, hitems, hfrom, hnames,
          dropKeyword?_eq]
        cases hw with
        | none =>
            have hwhere : dropKind? (.keyword .WHERE) rest = none :=
              dropKind?_eq_none (hrest.subset (by simp [selectProlonging]))
            simp [hwhere]
        | some ht hc =>
            obtain ⟨h₅, hconditions⟩ := (reads_conditions stop).complete hc
              (hrest.subset (by simp [selectProlonging]))
            rw [dropKeyword?_eq] at hconditions
            simp [dropKind?_cons _ ht, hconditions]

theorem reads_createTable :
    Reads (readCreateTable stop) CreateTableOf [] where
  sound := by
    rintro ts d rest ⟨hlt, h⟩
    unfold readCreateTable at h
    obtain ⟨⟨_, r₁, h₁⟩, hcreate, h⟩ := bind_eq_ok_iff.mp h
    obtain ⟨⟨_, r₂, h₂⟩, htable, h⟩ := bind_eq_ok_iff.mp h
    obtain ⟨⟨name, r₃, h₃⟩, hname, h⟩ := bind_eq_ok_iff.mp h
    obtain ⟨⟨_, r₄, h₄⟩, hopen, h⟩ := bind_eq_ok_iff.mp h
    obtain ⟨⟨columns, r₅, h₅⟩, hcolumns, h⟩ := bind_eq_ok_iff.mp h
    obtain ⟨⟨_, r₆, h₆⟩, hclose, h⟩ := bind_eq_ok_iff.mp h
    obtain ⟨_, hts, create, rfl, hc⟩ :=
      (reads_keyword stop .CREATE).sound (takes_of_ok hcreate)
    obtain ⟨_, hr₁, table, rfl, ht⟩ :=
      (reads_keyword stop .TABLE).sound (takes_of_ok htable)
    obtain ⟨ns, hr₂, hn⟩ := (reads_name stop).sound (takes_of_ok hname)
    obtain ⟨_, hr₃, opening, rfl, ho⟩ :=
      (reads_mark stop .leftParen).sound (takes_of_ok hopen)
    obtain ⟨cs, hr₄, hcs⟩ := (reads_columns stop).sound (takes_of_ok hcolumns)
    obtain ⟨_, hr₅, close, rfl, hcl⟩ :=
      (reads_mark stop .rightParen).sound (takes_of_ok hclose)
    cases h
    refine ⟨create :: table :: (ns ++ opening :: (cs ++ [close])), ?_,
      .of hc ht hn ho hcs hcl⟩
    dsimp only at hts hr₁ hr₂ hr₃ hr₄ hr₅
    simp [hts, hr₁, hr₂, hr₃, hr₄, hr₅]
  complete := by
    intro body rest d h _
    cases h with
    | @of create table ns opening cs close name columns hc ht hn ho hcs hcl =>
        obtain ⟨h₁, hcreate⟩ := takes_keyword stop
          (table :: (ns ++ opening :: (cs ++ close :: rest))) hc
        obtain ⟨h₂, htable⟩ :=
          takes_keyword stop (ns ++ opening :: (cs ++ close :: rest)) ht
        obtain ⟨h₃, hname⟩ := (reads_name stop).complete hn
          (avoids_none (opening :: (cs ++ close :: rest)))
        obtain ⟨h₄, hopen⟩ := takes_mark stop (cs ++ close :: rest) ho
        obtain ⟨h₅, hcolumns⟩ := (reads_columns stop).complete hcs
          (show Avoids _ (close :: rest) by simp [hcl])
        obtain ⟨h₆, hclose⟩ := takes_mark stop rest hcl
        have heq : create :: table :: (ns ++ opening :: (cs ++ [close])) ++ rest =
            create :: table :: (ns ++ opening :: (cs ++ close :: rest)) := by
          simp
        rw [heq]
        refine ⟨by
          simp only [List.length_append, List.length_cons]
          omega, ?_⟩
        simp [readCreateTable, hcreate, htable, hname, hopen, hcolumns, hclose]

theorem reads_dropTable : Reads (readDropTable stop) DropTableOf [] where
  sound := by
    rintro ts name rest ⟨hlt, h⟩
    unfold readDropTable at h
    obtain ⟨⟨_, r₁, h₁⟩, hdrop, h⟩ := bind_eq_ok_iff.mp h
    obtain ⟨⟨_, r₂, h₂⟩, htable, h⟩ := bind_eq_ok_iff.mp h
    obtain ⟨⟨_, r₃, h₃⟩, hname, h⟩ := bind_eq_ok_iff.mp h
    obtain ⟨_, hts, drop, rfl, hd⟩ :=
      (reads_keyword stop .DROP).sound (takes_of_ok hdrop)
    obtain ⟨_, hr₁, table, rfl, ht⟩ :=
      (reads_keyword stop .TABLE).sound (takes_of_ok htable)
    obtain ⟨ns, hr₂, hn⟩ := (reads_name stop).sound (takes_of_ok hname)
    cases h
    refine ⟨drop :: table :: ns, ?_, .of hd ht hn⟩
    dsimp only at hts hr₁ hr₂
    simp [hts, hr₁, hr₂]
  complete := by
    intro body rest name h _
    cases h with
    | @of drop table ns name hd ht hn =>
        obtain ⟨h₁, hdrop⟩ := takes_keyword stop (table :: (ns ++ rest)) hd
        obtain ⟨h₂, htable⟩ := takes_keyword stop (ns ++ rest) ht
        obtain ⟨h₃, hname⟩ := (reads_name stop).complete hn (avoids_none rest)
        rw [List.cons_append, List.cons_append]
        refine ⟨by
          simp only [List.length_append, List.length_cons]
          omega, ?_⟩
        simp [readDropTable, hdrop, htable, hname]

/-- The first word tells the statements apart. -/
theorem reads_statement :
    Reads (readStatement stop) StatementOf selectProlonging where
  sound := by
    rintro ts st rest ⟨hlt, h⟩
    unfold readStatement at h
    split at h
    · obtain ⟨⟨s, r, hr⟩, hread, h⟩ := bind_eq_ok_iff.mp h
      obtain ⟨body, hts, hs⟩ := (reads_select stop).sound (takes_of_ok hread)
      cases h
      exact ⟨body, hts, .select hs⟩
    · obtain ⟨⟨d, r, hr⟩, hread, h⟩ := bind_eq_ok_iff.mp h
      obtain ⟨body, hts, hd⟩ :=
        (reads_createTable stop).sound (takes_of_ok hread)
      cases h
      exact ⟨body, hts, .createTable hd⟩
    · obtain ⟨⟨name, r, hr⟩, hread, h⟩ := bind_eq_ok_iff.mp h
      obtain ⟨body, hts, hd⟩ := (reads_dropTable stop).sound (takes_of_ok hread)
      cases h
      exact ⟨body, hts, .dropTable hd⟩
    · cases h
  complete := by
    intro body rest st h hrest
    cases h with
    | select hs =>
        obtain ⟨hlt, hread⟩ := (reads_select stop).complete hs hrest
        have hfound : (found stop (body ++ rest)).kind = .keyword .SELECT := by
          cases hs with
          | of hk => exact hk
        exact ⟨hlt, by simp [readStatement, hfound, hread]⟩
    | createTable hd =>
        obtain ⟨hlt, hread⟩ :=
          (reads_createTable stop).complete hd (avoids_none rest)
        have hfound : (found stop (body ++ rest)).kind = .keyword .CREATE := by
          cases hd with
          | of hk => exact hk
        exact ⟨hlt, by simp [readStatement, hfound, hread]⟩
    | dropTable hd =>
        obtain ⟨hlt, hread⟩ :=
          (reads_dropTable stop).complete hd (avoids_none rest)
        have hfound : (found stop (body ++ rest)).kind = .keyword .DROP := by
          cases hd with
          | of hk => exact hk
        exact ⟨hlt, by simp [readStatement, hfound, hread]⟩

/-! ## One statement -/

theorem StatementOf.avoids_semicolon {body rest : List Token} {st : Statement}
    (h : StatementOf body st) : Avoids [.mark .semicolon] (body ++ rest) := by
  cases h with
  | select h => cases h with
    | of hk => simp [hk]
  | createTable h => cases h with
    | of hk => simp [hk]
  | dropTable h => cases h with
    | of hk => simp [hk]

theorem StatementOf.ne_nil {body : List Token} {st : Statement}
    (h : StatementOf body st) : body ≠ [] := by
  rintro rfl
  cases h with
  | select h => cases h
  | createTable h => cases h
  | dropTable h => cases h

/-- Semicolons never prolong a statement, and neither does the end. -/
theorem Semicolons.avoids {ts : List Token} (h : Semicolons ts) :
    Avoids selectProlonging ts := by
  intro t ht
  rw [h t (List.mem_of_mem_head? ht)]
  decide

theorem dropWhile_semicolon_eq_nil_iff {ts : List Token} :
    ts.dropWhile (·.isMark .semicolon) = [] ↔ Semicolons ts := by
  rw [List.dropWhile_eq_nil_iff]
  simp [Semicolons, Token.isMark]

/-- Reading one statement: a statement and any number of semicolons. -/
theorem statement_eq_ok_iff {s : Sentence} {st : Statement} :
    s.statement = .ok st ↔ ∃ body rest, s.tokens = body ++ rest ∧
      StatementOf body st ∧ Semicolons rest := by
  unfold Sentence.statement
  constructor
  · intro h
    obtain ⟨⟨st', rest, hlt⟩, hread, h⟩ := bind_eq_ok_iff.mp h
    obtain ⟨body, hts, hbody⟩ :=
      (reads_statement s.stop).sound (takes_of_ok hread)
    dsimp only at h
    split at h
    · next hrest =>
        cases h
        exact ⟨body, rest, hts, hbody, dropWhile_semicolon_eq_nil_iff.mp hrest⟩
    · cases h
  · rintro ⟨body, rest, hts, hbody, hrest⟩
    obtain ⟨hlt, hread⟩ := (reads_statement s.stop).complete hbody hrest.avoids
    obtain ⟨tokens, stop⟩ := s
    dsimp only at hts hread ⊢
    subst hts
    simp [hread, dropWhile_semicolon_eq_nil_iff.mpr hrest]

/-! ## Scripts -/

theorem ScriptOf.semicolon {t : Token} {ts : List Token}
    {sts : List Statement} (ht : t.kind = .mark .semicolon)
    (h : ScriptOf ts sts) : ScriptOf (t :: ts) sts := by
  cases h with
  | empty hs => exact .empty (by simpa [Semicolons, ht] using hs)
  | @statements before ts after sts hb hs ha =>
      have hb' : Semicolons (t :: before) := by
        simpa [Semicolons, ht] using hb
      exact .statements hb' hs ha

/-- A statement and a semicolon may be put in front of any script. -/
theorem ScriptOf.statement {body ts : List Token} {t : Token}
    {st : Statement} {sts : List Statement} (hst : StatementOf body st)
    (ht : t.kind = .mark .semicolon) (h : ScriptOf ts sts) :
    ScriptOf (body ++ t :: ts) (st :: sts) := by
  cases h with
  | empty hs =>
      have hafter : Semicolons (t :: ts) := by simpa [Semicolons, ht] using hs
      exact @ScriptOf.statements [] body (t :: ts) [st] (by simp [Semicolons])
        (.single hst) hafter
  | @statements before ts after sts hb hs ha =>
      have hgap : Gap (t :: before) := ⟨by simp, by simpa [Semicolons, ht] using hb⟩
      have hscript := @ScriptOf.statements [] _ after _ (by simp [Semicolons])
        (.more hst hgap hs) ha
      simpa using hscript

theorem readStatements_skip {before : List Token} (ts : List Token)
    (h : Semicolons before) :
    readStatements stop (before ++ ts) = readStatements stop ts := by
  induction before with
  | nil => rfl
  | cons t before ih =>
      rw [List.cons_append, readStatements, dropMark?_eq,
        dropKind?_cons _ (h t List.mem_cons_self)]
      exact ih fun u hu => h u (List.mem_cons_of_mem _ hu)

theorem readStatements_semicolons {ts : List Token} (h : Semicolons ts) :
    readStatements stop ts = .ok [] := by
  rw [← List.append_nil ts, readStatements_skip stop [] h, readStatements]
  rfl

/-- A statement in front of the end. -/
theorem readStatements_last {body : List Token} {st : Statement}
    (h : StatementOf body st) : readStatements stop body = .ok [st] := by
  obtain ⟨hlt, hread⟩ := (reads_statement stop).complete h (avoids_end _)
  have hsemicolon : dropKind? (.mark .semicolon) (body ++ []) = none :=
    dropKind?_eq_none h.avoids_semicolon
  rw [← List.append_nil body, readStatements]
  rw [dropMark?_eq, hsemicolon, hread]
  simp [h.ne_nil]

/-- A statement in front of a semicolon. -/
theorem readStatements_more {body : List Token} {t : Token} {st : Statement}
    (rest : List Token) (h : StatementOf body st)
    (ht : t.kind = .mark .semicolon) :
    readStatements stop (body ++ t :: rest) =
      (readStatements stop rest).map (st :: ·) := by
  obtain ⟨hlt, hread⟩ := (reads_statement stop).complete h
    (show Avoids selectProlonging (t :: rest) by simp [ht, selectProlonging])
  obtain ⟨hlt', hmark⟩ := takes_mark stop rest ht
  have hsemicolon : dropKind? (.mark .semicolon) (body ++ t :: rest) = none :=
    dropKind?_eq_none h.avoids_semicolon
  rw [readStatements, dropMark?_eq, hsemicolon, hread]
  simp [hmark]
  cases readStatements stop rest <;> rfl

theorem readStatements_sound {ts : List Token} {sts : List Statement}
    (h : readStatements stop ts = .ok sts) : ScriptOf ts sts := by
  induction ts using (measure List.length).wf.induction generalizing sts with
  | h ts ih =>
      rw [readStatements] at h
      split at h
      · next rest hlt hdrop =>
          obtain ⟨t, rfl, ht⟩ := eq_cons_of_dropKind? hdrop
          exact (ih rest hlt h).semicolon ht
      · split at h
        · next hempty =>
            cases h
            rw [List.isEmpty_iff.mp hempty]
            exact .empty (by simp [Semicolons])
        · obtain ⟨⟨st, rest, hlt⟩, hread, h⟩ := bind_eq_ok_iff.mp h
          obtain ⟨body, hts, hbody⟩ :=
            (reads_statement stop).sound (takes_of_ok hread)
          dsimp only at h hts
          split at h
          · next hend =>
              cases h
              have hlast := @ScriptOf.statements [] body [] [st]
                (by simp [Semicolons]) (.single hbody) (by simp [Semicolons])
              simpa [hts, List.isEmpty_iff.mp hend] using hlast
          · obtain ⟨⟨_, rest', hlt'⟩, hmark, h⟩ := bind_eq_ok_iff.mp h
            obtain ⟨sts', hmore, h⟩ := bind_eq_ok_iff.mp h
            obtain ⟨_, hrest, t, rfl, ht⟩ :=
              (reads_mark stop .semicolon).sound (takes_of_ok hmark)
            cases h
            have hscript := ih rest' (Nat.lt_trans hlt' hlt) hmore
            rw [hts, hrest]
            exact hscript.statement hbody ht

theorem readStatements_complete {ts : List Token} {sts : List Statement}
    (h : ScriptOf ts sts) : readStatements stop ts = .ok sts := by
  cases h with
  | empty hs => exact readStatements_semicolons stop hs
  | @statements before ts after sts hb hs ha =>
      rw [readStatements_skip stop _ hb]
      clear hb
      induction hs with
      | single hst =>
          cases after with
          | nil =>
              rw [List.append_nil]
              exact readStatements_last stop hst
          | cons t after =>
              have hrest : Semicolons after :=
                fun u hu => ha u (List.mem_cons_of_mem _ hu)
              rw [readStatements_more stop after hst (ha t List.mem_cons_self),
                readStatements_semicolons stop hrest]
              rfl
      | @more body sep rest st sts hst hsep _ ih =>
          -- One semicolon ends the statement, the others are skipped.
          obtain ⟨hne, hsemi⟩ := hsep
          obtain ⟨t, sep, rfl⟩ := List.exists_cons_of_ne_nil hne
          have hskip : Semicolons sep :=
            fun u hu => hsemi u (List.mem_cons_of_mem _ hu)
          rw [List.append_assoc, List.append_assoc, List.cons_append,
            readStatements_more stop _ hst (hsemi t List.mem_cons_self),
            readStatements_skip stop _ hskip, ih]
          rfl

/-- Reading a script: statements with semicolons between and around them. -/
theorem statements_eq_ok_iff {s : Sentence} {sts : List Statement} :
    s.statements = .ok sts ↔ ScriptOf s.tokens sts :=
  ⟨readStatements_sound s.stop, readStatements_complete s.stop⟩

/-! ## Token lists -/

/-- **Reading is deriving.** Of any list of tokens only those before the first
`finish` token count. They are read as one statement exactly when they are a
sentence of the grammar followed by semicolons, and as a script exactly when
they are sentences with semicolons between and around them; what is read is
what the grammar derives. -/
theorem ofTokens_eq_ok_iff_derives (ts : List Token) :
    (∀ st, (Sentence.ofTokens ts).statement = .ok st ↔
      ∃ body rest, ts.takeWhile (!·.isFinish) = body ++ rest ∧
        StatementOf body st ∧ Semicolons rest) ∧
    (∀ sts, (Sentence.ofTokens ts).statements = .ok sts ↔
      ScriptOf (ts.takeWhile (!·.isFinish)) sts) :=
  ⟨fun _ => statement_eq_ok_iff, fun _ => statements_eq_ok_iff⟩

end QueryBind.Sql
