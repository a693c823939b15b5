import QueryBind.Proofs.Results
import QueryBind.Proofs.Sql.Grammar
import QueryBind.Sql.Sentence

/-!
# Readers and the phrases they take

A reader *reads* a phrase when it takes off the front of a list exactly what
is a phrase of that kind: whatever it takes derives the tree it gives, and
every phrase is taken whole, provided that no token follows which could
prolong it. The first half is soundness, the second completeness, and a reader
never goes back, so the kinds of tokens that could prolong a phrase are all
that completeness has to exclude.
-/

namespace QueryBind.Sql

/-! ## What comes next -/

/-- Nothing of these kinds comes next. -/
def Avoids (kinds : List TokenKind) (ts : List Token) : Prop :=
  ∀ t ∈ ts.head?, t.kind ∉ kinds

theorem avoids_end (kinds : List TokenKind) : Avoids kinds [] := by
  simp [Avoids]

@[simp] theorem avoids_cons {kinds : List TokenKind} {t : Token}
    {ts : List Token} : Avoids kinds (t :: ts) ↔ t.kind ∉ kinds := by
  simp [Avoids]

theorem Avoids.subset {kinds fewer : List TokenKind} {ts : List Token}
    (h : Avoids kinds ts) (hsub : fewer ⊆ kinds) : Avoids fewer ts :=
  fun t ht hmem => h t ht (hsub hmem)

theorem avoids_none (ts : List Token) : Avoids [] ts :=
  fun _ _ => List.not_mem_nil

/-! ## Taking one token by its kind -/

/-- The rest of a list that begins with a token of a kind. -/
abbrev dropKind? (kind : TokenKind) (ts : List Token) :
    Option { rest : List Token // rest.length < ts.length } :=
  dropHead? (·.kind == kind) ts

theorem dropMark?_eq (m : Mark) : dropMark? m = dropKind? (.mark m) := rfl

theorem dropKeyword?_eq (k : Keyword) :
    dropKeyword? k = dropKind? (.keyword k) := rfl

theorem dropKind?_cons {kind : TokenKind} {t : Token} (ts : List Token)
    (h : t.kind = kind) :
    dropKind? kind (t :: ts) = some ⟨ts, Nat.lt_succ_self _⟩ := by
  simp [dropKind?, dropHead?, h]

theorem dropKind?_eq_none {kind : TokenKind} {ts : List Token}
    (h : Avoids [kind] ts) : dropKind? kind ts = none := by
  cases ts with
  | nil => rfl
  | cons t ts =>
      have hne : t.kind ≠ kind := by simpa using h
      simp [dropKind?, dropHead?, hne]

theorem eq_cons_of_dropKind? {kind : TokenKind} {ts rest : List Token}
    {hlt : rest.length < ts.length} (h : dropKind? kind ts = some ⟨rest, hlt⟩) :
    ∃ t, ts = t :: rest ∧ t.kind = kind := by
  cases ts with
  | nil => simp [dropKind?, dropHead?] at h
  | cons t ts =>
      simp only [dropKind?, dropHead?, beq_iff_eq,
        Option.ite_none_right_eq_some, Option.some.injEq, Subtype.mk.injEq] at h
      obtain ⟨hk, rfl⟩ := h
      exact ⟨t, rfl, hk⟩

/-! ## Reading a phrase -/

section Reads

variable {α : Type}

/-- A reader gives a tree and leaves a rest. -/
def Takes (reader : Reader α) (ts : List Token) (a : α) (rest : List Token) :
    Prop :=
  ∃ h, reader ts = .ok ⟨a, rest, h⟩

theorem takes_of_ok {reader : Reader α} {ts : List Token}
    {r : Taken Token α ts} (h : reader ts = .ok r) :
    Takes reader ts r.value r.rest :=
  ⟨r.shorter, h⟩

/-- A reader takes exactly the phrases of a kind off the front of a list, if
no token that could prolong the phrase follows it. -/
structure Reads (reader : Reader α) (phrase : List Token → α → Prop)
    (prolonging : List TokenKind) : Prop where
  sound : ∀ {ts a rest}, Takes reader ts a rest →
    ∃ body, ts = body ++ rest ∧ phrase body a
  complete : ∀ {body rest a}, phrase body a → Avoids prolonging rest →
    Takes reader (body ++ rest) a rest

theorem readSeparated_sound {one : Reader α} {phrase : List Token → α → Prop}
    {kind : TokenKind} {ts rest : List Token} {as : List α}
    (hone : ∀ {us a rest}, us.length ≤ ts.length → Takes one us a rest →
      ∃ body, us = body ++ rest ∧ phrase body a)
    (h : Takes (readSeparated one (dropKind? kind)) ts as rest) :
    ∃ body, ts = body ++ rest ∧ Separated (One kind) phrase body as := by
  induction ts using (measure List.length).wf.induction generalizing as with
  | h ts ih =>
      obtain ⟨hshort, h⟩ := h
      rw [readSeparated] at h
      obtain ⟨⟨a, r₁, h₁⟩, hfirst, h⟩ := bind_eq_ok_iff.mp h
      obtain ⟨us, hus, ha⟩ := hone (Nat.le_refl _) (takes_of_ok hfirst)
      dsimp only at h hus ha
      split at h
      · cases h
        exact ⟨us, hus, .single ha⟩
      · next r₂ h₂ hdrop =>
          obtain ⟨⟨as', r₃, h₃⟩, hmore, h⟩ := bind_eq_ok_iff.mp h
          obtain ⟨t, hr₁, ht⟩ := eq_cons_of_dropKind? hdrop
          cases h
          obtain ⟨vs, hvs, has⟩ := ih r₂ (Nat.lt_trans h₂ h₁)
            (fun hle => hone (Nat.le_trans hle (by omega))) (takes_of_ok hmore)
          refine ⟨us ++ ([t] ++ vs), ?_, .more ha ⟨t, rfl, ht⟩ has⟩
          simp [hus, hr₁, hvs]

theorem readSeparated_complete {one : Reader α}
    {phrase : List Token → α → Prop} {kind : TokenKind}
    {prolonging : List TokenKind} {body rest : List Token} {as : List α}
    (hone : ∀ {us a rest}, us.length ≤ body.length → phrase us a →
      Avoids prolonging rest → Takes one (us ++ rest) a rest)
    (hkind : kind ∉ prolonging) (hbody : Separated (One kind) phrase body as)
    (hrest : Avoids (kind :: prolonging) rest) :
    Takes (readSeparated one (dropKind? kind)) (body ++ rest) as rest := by
  have hstop : dropKind? kind rest = none :=
    dropKind?_eq_none (hrest.subset (by simp))
  have hfollow : Avoids prolonging rest := hrest.subset (by simp)
  induction hbody with
  | single ha =>
      obtain ⟨hlt, hfirst⟩ := hone (Nat.le_refl _) ha hfollow
      refine ⟨hlt, ?_⟩
      rw [readSeparated, hfirst]
      simp [hstop]
  | @more us sep vs a as ha hsep _ ih =>
      obtain ⟨t, rfl, ht⟩ := hsep
      obtain ⟨h₂, hmore⟩ := ih fun hle => hone (by simp; omega)
      -- The separator follows the first phrase and does not prolong it.
      have hnext : Avoids prolonging (t :: (vs ++ rest)) := by
        simpa [ht] using hkind
      obtain ⟨h₁, hfirst⟩ := hone (by simp) ha hnext
      rw [List.append_assoc, List.append_assoc, List.singleton_append]
      refine ⟨by simp at h₁ h₂ ⊢; omega, ?_⟩
      rw [readSeparated, hfirst]
      simp [dropKind?_cons _ ht, hmore]

theorem Reads.separated {one : Reader α} {phrase : List Token → α → Prop}
    {kind : TokenKind} {prolonging : List TokenKind}
    (hone : Reads one phrase prolonging) (hkind : kind ∉ prolonging) :
    Reads (readSeparated one (dropKind? kind))
      (Separated (One kind) phrase) (kind :: prolonging) where
  sound h := readSeparated_sound (fun _ => hone.sound) h
  complete hbody hrest :=
    readSeparated_complete (fun _ => hone.complete) hkind hbody hrest

end Reads

/-! ## Single tokens -/

section Tokens

variable (stop : Token)

/-- A reader that asks for one token of a kind, whatever it says if there is
none. -/
theorem reads_one {kind : TokenKind} {reader : Reader Unit}
    (hsome : ∀ {ts r}, dropKind? kind ts = some r →
      reader ts = .ok ⟨(), r.val, r.property⟩)
    (hnone : ∀ {ts r}, dropKind? kind ts = none → reader ts ≠ .ok r) :
    Reads reader (fun ts _ => One kind ts) [] where
  sound := by
    rintro ts ⟨⟩ rest ⟨hlt, h⟩
    cases hdrop : dropKind? kind ts with
    | none => exact absurd h (hnone hdrop)
    | some taken =>
        rw [hsome hdrop] at h
        cases h
        obtain ⟨t, hts, hk⟩ := eq_cons_of_dropKind? hdrop
        exact ⟨[t], hts, t, rfl, hk⟩
  complete := by
    rintro body rest ⟨⟩ ⟨t, rfl, hk⟩ -
    exact ⟨_, hsome (dropKind?_cons rest hk)⟩

theorem reads_mark (m : Mark) :
    Reads (readMark stop m) (fun ts _ => One (.mark m) ts) [] :=
  reads_one (fun h => by simp only [readMark, dropMark?_eq, h])
    (fun h => by simp [readMark, dropMark?_eq, h])

theorem reads_keyword (k : Keyword) :
    Reads (readKeyword stop k) (fun ts _ => One (.keyword k) ts) [] :=
  reads_one (fun h => by simp only [readKeyword, dropKeyword?_eq, h])
    (fun h => by simp [readKeyword, dropKeyword?_eq, h])

theorem takes_mark {m : Mark} {t : Token} (rest : List Token)
    (ht : t.kind = .mark m) : Takes (readMark stop m) (t :: rest) () rest :=
  (reads_mark stop m).complete ⟨t, rfl, ht⟩ (avoids_none rest)

theorem takes_keyword {k : Keyword} {t : Token} (rest : List Token)
    (ht : t.kind = .keyword k) :
    Takes (readKeyword stop k) (t :: rest) () rest :=
  (reads_keyword stop k).complete ⟨t, rfl, ht⟩ (avoids_none rest)

theorem name?_eq_some_iff {t : Token} {name : String} :
    t.name? = some name ↔ NameOf [t] name := by
  constructor
  · intro h
    unfold Token.name? at h
    split at h
    · next hk =>
        cases h
        exact .identifier hk
    · next k hk =>
        by_cases hr : k.isReserved = true
        · simp [hr] at h
        · simp only [hr, Bool.false_eq_true, if_false, Option.some.injEq] at h
          subst h
          exact .keyword hk (by simpa using hr)
    · cases h
  · intro h
    cases h with
    | identifier hk => simp [Token.name?, hk]
    | keyword hk hr => simp [Token.name?, hk, hr]

theorem NameOf.exists_token {ts : List Token} {name : String}
    (h : NameOf ts name) : ∃ t, ts = [t] ∧ t.name? = some name := by
  cases h with
  | identifier hk => exact ⟨_, rfl, name?_eq_some_iff.mpr (.identifier hk)⟩
  | keyword hk hr => exact ⟨_, rfl, name?_eq_some_iff.mpr (.keyword hk hr)⟩

theorem reads_name : Reads (readName stop) NameOf [] where
  sound := by
    rintro ts name rest ⟨hlt, h⟩
    unfold readName at h
    split at h
    · cases h
    · next t rest' =>
        split at h
        · next hname =>
            cases h
            exact ⟨[t], rfl, name?_eq_some_iff.mp hname⟩
        · cases h
  complete := by
    intro body rest name h _
    obtain ⟨t, rfl, hname⟩ := h.exists_token
    refine ⟨Nat.lt_succ_self _, ?_⟩
    simp [readName, hname]

theorem reads_numeral :
    Reads (readNumeral stop) (fun ts digits => One (.numeral digits) ts) [] where
  sound := by
    rintro ts digits rest ⟨hlt, h⟩
    unfold readNumeral at h
    split at h
    · cases h
    · next t rest' =>
        split at h
        · next hk =>
            cases h
            exact ⟨[t], rfl, t, rfl, hk⟩
        · cases h
  complete := by
    rintro body rest digits ⟨t, rfl, hk⟩ -
    refine ⟨Nat.lt_succ_self _, ?_⟩
    simp [readNumeral, hk]

theorem takes_numeral {digits : String} {t : Token} (rest : List Token)
    (ht : t.kind = .numeral digits) :
    Takes (readNumeral stop) (t :: rest) digits rest :=
  (reads_numeral stop).complete ⟨t, rfl, ht⟩ (avoids_none rest)

end Tokens

end QueryBind.Sql
