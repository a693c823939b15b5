import QueryBind.Proofs.Sql.Reading

/-!
# The readers of items, conditions and columns

Every reader below the level of whole statements takes exactly its phrase. An
entry of a SELECT list is the one phrase that nests; its proofs go by the
number of tokens, and the repetition between the parentheses of a call is the
same `Separated` as everywhere else.
-/

namespace QueryBind.Sql

variable (stop : Token)

/-! ## References -/

theorem reads_part : Reads (readPart stop) PartOf [] where
  sound := by
    rintro ts name rest ⟨hlt, h⟩
    unfold readPart at h
    split at h
    · next hdrop =>
        cases h
        obtain ⟨t, hts, ht⟩ := eq_cons_of_dropKind? hdrop
        exact ⟨[t], hts, .star ht⟩
    · obtain ⟨body, hts, hname⟩ := (reads_name stop).sound (takes_of_ok h)
      exact ⟨body, hts, .name hname⟩
  complete := by
    intro body rest name h _
    cases h with
    | star ht =>
        refine ⟨Nat.lt_succ_self _, ?_⟩
        simp only [readPart, dropMark?_eq, List.singleton_append,
          dropKind?_cons rest ht]
    | name hname =>
        obtain ⟨t, rfl, _⟩ := hname.exists_token
        have hstar : dropKind? (.mark .star) ([t] ++ rest) = none := by
          refine dropKind?_eq_none ?_
          cases hname with
          | identifier ht => simp [ht]
          | keyword ht => simp [ht]
        obtain ⟨hlt, hread⟩ :=
          (reads_name stop).complete hname (avoids_none rest)
        refine ⟨hlt, ?_⟩
        simp only [readPart, dropMark?_eq, hstar, hread]

theorem reads_reference :
    Reads (readColumnRef stop) ReferenceOf [.mark .dot] where
  sound := by
    rintro ts reference rest ⟨hlt, h⟩
    unfold readColumnRef at h
    obtain ⟨⟨first, r₁, h₁⟩, hfirst, h⟩ := bind_eq_ok_iff.mp h
    obtain ⟨us, hus, hpart⟩ := (reads_part stop).sound (takes_of_ok hfirst)
    dsimp only at h hus hpart
    split at h
    · cases h
      exact ⟨us, hus, .alone hpart⟩
    · next r₂ h₂ hdrop =>
        obtain ⟨⟨second, r₃, h₃⟩, hsecond, h⟩ := bind_eq_ok_iff.mp h
        obtain ⟨dot, hr₁, hdot⟩ := eq_cons_of_dropKind? hdrop
        obtain ⟨vs, hvs, hpart'⟩ :=
          (reads_part stop).sound (takes_of_ok hsecond)
        cases h
        refine ⟨us ++ dot :: vs, ?_, .qualified hpart hdot hpart'⟩
        simp [hus, hr₁, hvs]
  complete := by
    intro body rest reference h hrest
    cases h with
    | alone hpart =>
        obtain ⟨hlt, hread⟩ := (reads_part stop).complete hpart (avoids_none rest)
        refine ⟨hlt, ?_⟩
        simp [readColumnRef, hread, dropMark?_eq, dropKind?_eq_none hrest]
    | @qualified us dot ts relation name hpart hdot hpart' =>
        obtain ⟨h₁, hfirst⟩ :=
          (reads_part stop).complete hpart (avoids_none (dot :: (ts ++ rest)))
        obtain ⟨h₂, hsecond⟩ :=
          (reads_part stop).complete hpart' (avoids_none rest)
        rw [List.append_assoc, List.cons_append]
        refine ⟨by simp at h₂ ⊢; omega, ?_⟩
        simp [readColumnRef, hfirst, dropMark?_eq, dropKind?_cons _ hdot, hsecond]

/-! ## Entries of a SELECT list -/

theorem aggregate?_eq_some_iff {k : Keyword} {f : AggregateFunction} :
    k.aggregate? = some f ↔ AggregateWord k f := by
  constructor
  · intro h
    cases k <;> cases h <;> constructor
  · rintro ⟨⟩ <;> rfl

theorem callHead?_sound {ts rest : List Token} {f : AggregateFunction}
    {hlt : rest.length < ts.length} (h : callHead? ts = some ⟨f, rest, hlt⟩) :
    ∃ head, ts = head ++ rest ∧ HeadOf head f := by
  unfold callHead? at h
  split at h
  · next t u rest' =>
      split at h
      · next k hk =>
          split at h
          · next hu =>
              obtain ⟨g, hg, heq⟩ := Option.map_eq_some_iff.mp h
              cases heq
              refine ⟨[t, u], rfl, .of hk (aggregate?_eq_some_iff.mp hg) ?_⟩
              simpa [Token.isMark] using hu
          · cases h
      · cases h
  · cases h

theorem callHead?_complete {head : List Token} {f : AggregateFunction}
    (rest : List Token) (h : HeadOf head f) :
    ∃ hlt, callHead? (head ++ rest) = some ⟨f, rest, hlt⟩ := by
  cases h with
  | of ht hf hu =>
      refine ⟨by
        simp only [List.length_append, List.length_cons, List.length_nil]
        omega, ?_⟩
      simp [callHead?, ht, Token.isMark, hu, aggregate?_eq_some_iff.mpr hf]

theorem PartOf.exists_token {ts : List Token} {name : String}
    (h : PartOf ts name) :
    ∃ t, ts = [t] ∧ (t.kind = .mark .star ∨ NameOf [t] name) := by
  cases h with
  | star ht => exact ⟨_, rfl, Or.inl ht⟩
  | name hname =>
      obtain ⟨t, rfl, -⟩ := hname.exists_token
      exact ⟨t, rfl, Or.inr hname⟩

/-- A reference begins with a star or a name. -/
theorem ReferenceOf.exists_head {ts : List Token}
    {reference : Option String × String} (h : ReferenceOf ts reference) :
    ∃ t us name, ts = t :: us ∧ (t.kind = .mark .star ∨ NameOf [t] name) := by
  cases h with
  | alone hpart =>
      obtain ⟨t, rfl, ht⟩ := hpart.exists_token
      exact ⟨t, [], _, rfl, ht⟩
  | qualified hpart hdot hpart' =>
      obtain ⟨t, rfl, ht⟩ := hpart.exists_token
      exact ⟨t, _, _, rfl, ht⟩

/-- No call begins where a reference stands, unless an opening parenthesis
follows it: a word for a function may be a name as well. -/
theorem callHead?_reference {body rest : List Token}
    {reference : Option String × String} (h : ReferenceOf body reference)
    (hrest : Avoids [.mark .leftParen] rest) :
    callHead? (body ++ rest) = none := by
  have second : ∀ {t : Token} {us : List Token},
      Avoids [.mark .leftParen] us → callHead? (t :: us) = none := by
    intro t us hus
    cases us with
    | nil => rfl
    | cons u us =>
        have hne : u.kind ≠ .mark .leftParen := by simpa using hus
        simp [callHead?, Token.isMark, hne]
        split <;> rfl
  cases h with
  | alone hpart =>
      obtain ⟨t, rfl, -⟩ := hpart.exists_token
      exact second hrest
  | qualified hpart hdot hpart' =>
      obtain ⟨t, rfl, -⟩ := hpart.exists_token
      exact second (by simp [hdot])

theorem readItems_eq (ts : List Token) :
    readItems stop ts =
      readSeparated (readItem stop) (dropKind? (.mark .comma)) ts := by
  induction ts using (measure List.length).wf.induction with
  | h ts ih =>
      rw [readItems, readSeparated]
      congr 1
      funext entry
      obtain ⟨item, rest, hlt⟩ := entry
      dsimp only
      rw [dropMark?_eq]
      split
      · rfl
      · next r₂ h₂ _ => rw [ih r₂ (Nat.lt_trans h₂ hlt)]

/-- An entry never begins with the parenthesis that closes a call. -/
theorem ItemOf.avoids_close {body rest : List Token} {item : Item}
    (h : ItemOf body item) : Avoids [.mark .rightParen] (body ++ rest) := by
  have head : ∀ {head us f}, HeadOf head f →
      Avoids [.mark .rightParen] (head ++ us) := by
    rintro head us f ⟨ht, _, _⟩
    simp [ht]
  cases h with
  | column href =>
      obtain ⟨t, us, name, rfl, ht | ⟨ht⟩ | ⟨ht⟩⟩ := href.exists_head <;>
        simp [ht]
  | emptyCall hhead =>
      rw [List.append_assoc]
      exact head hhead
  | call hhead =>
      rw [List.append_assoc]
      exact head hhead

theorem Separated.avoids_close {inside rest : List Token} {items : List Item}
    (h : Listed ItemOf inside items) :
    Avoids [.mark .rightParen] (inside ++ rest) := by
  cases h with
  | single h => exact h.avoids_close
  | more h =>
      rw [List.append_assoc]
      exact h.avoids_close

theorem readItem_sound {ts rest : List Token} {item : Item}
    (h : Takes (readItem stop) ts item rest) :
    ∃ body, ts = body ++ rest ∧ ItemOf body item := by
  induction ts using (measure List.length).wf.induction generalizing item rest with
  | h ts ih =>
      obtain ⟨hlt, h⟩ := h
      rw [readItem] at h
      split at h
      · next f inside h₁ hhead =>
          obtain ⟨head, hts, hf⟩ := callHead?_sound hhead
          split at h
          · next rest' h₂ hdrop =>
              obtain ⟨close, hinside, hclose⟩ := eq_cons_of_dropKind? hdrop
              cases h
              exact ⟨head ++ [close], by simp [hts, hinside],
                .emptyCall hf hclose⟩
          · -- The arguments are read from a shorter list, where `ih` applies.
            obtain ⟨⟨arguments, r₂, h₂⟩, hitems, h⟩ := bind_eq_ok_iff.mp h
            obtain ⟨⟨_, r₃, h₃⟩, hmark, h⟩ := bind_eq_ok_iff.mp h
            rw [readItems_eq] at hitems
            obtain ⟨us, hinside, harguments⟩ :=
              readSeparated_sound
                (fun hle htakes => ih _ (Nat.lt_of_le_of_lt hle h₁) htakes)
                (takes_of_ok hitems)
            obtain ⟨vs, hr₂, close, rfl, hclose⟩ :=
              (reads_mark stop .rightParen).sound (takes_of_ok hmark)
            cases h
            refine ⟨head ++ (us ++ [close]), ?_, .call hf harguments hclose⟩
            dsimp only at hinside hr₂
            simp [hts, hinside, hr₂]
      · obtain ⟨⟨⟨relation, name⟩, r₂, h₂⟩, href, h⟩ := bind_eq_ok_iff.mp h
        obtain ⟨body, hts, hreference⟩ :=
          (reads_reference stop).sound (takes_of_ok href)
        cases h
        exact ⟨body, hts, .column hreference⟩

theorem readItem_complete {body rest : List Token} {item : Item}
    (h : ItemOf body item)
    (hrest : Avoids [.mark .dot, .mark .leftParen] rest) :
    Takes (readItem stop) (body ++ rest) item rest := by
  induction body using (measure List.length).wf.induction
      generalizing item rest with
  | h body ih =>
      cases h with
      | column href =>
          obtain ⟨hlt, hread⟩ :=
            (reads_reference stop).complete href (hrest.subset (by simp))
          refine ⟨hlt, ?_⟩
          rw [readItem, callHead?_reference href (hrest.subset (by simp)), hread]
          rfl
      | @emptyCall head close f hhead hclose =>
          obtain ⟨h₁, hcall⟩ := callHead?_complete (close :: rest) hhead
          rw [List.append_assoc, List.singleton_append]
          refine ⟨by
            simp only [List.length_append, List.length_cons] at h₁ ⊢
            omega, ?_⟩
          rw [readItem, hcall]
          simp [dropMark?_eq, dropKind?_cons rest hclose]
      | @call head inside close f arguments hhead harguments hclose =>
          have hshorter : inside.length < (head ++ (inside ++ [close])).length := by
            simp
            omega
          -- The closing parenthesis prolongs no argument.
          have hinside : Takes (readItems stop) (inside ++ close :: rest)
              arguments (close :: rest) := by
            unfold Takes
            rw [readItems_eq]
            exact readSeparated_complete
              (fun hle => ih _ (Nat.lt_of_le_of_lt hle hshorter))
              (by decide) harguments (by simp [hclose])
          obtain ⟨h₁, hcall⟩ :=
            callHead?_complete (inside ++ close :: rest) hhead
          obtain ⟨h₂, hitems⟩ := hinside
          obtain ⟨h₃, hmark⟩ := takes_mark stop rest hclose
          have hopen : dropKind? (.mark .rightParen) (inside ++ close :: rest) =
              none :=
            dropKind?_eq_none (Separated.avoids_close harguments)
          rw [List.append_assoc, List.append_assoc, List.singleton_append]
          refine ⟨by
            simp only [List.length_append, List.length_cons] at h₁ ⊢
            omega, ?_⟩
          rw [readItem, hcall]
          simp [dropMark?_eq, hopen, hitems, hmark]

theorem reads_item :
    Reads (readItem stop) ItemOf [.mark .dot, .mark .leftParen] where
  sound := readItem_sound stop
  complete := readItem_complete stop

theorem reads_items :
    Reads (readItems stop) (Listed ItemOf)
      [.mark .comma, .mark .dot, .mark .leftParen] := by
  have heq : (readItems stop : Reader (List Item)) =
      readSeparated (readItem stop) (dropKind? (.mark .comma)) :=
    funext (readItems_eq stop)
  rw [heq]
  exact (reads_item stop).separated (by decide)

/-! ## Conditions -/

theorem numeralLiteral_eq_ok_iff {text : String} {v : Literal} :
    numeralLiteral text = .ok v ↔ Literal.ofNumeral? text = some v := by
  unfold numeralLiteral
  cases Literal.ofNumeral? text <;> simp

/-- Where a star or a name stands, the operand is a column. -/
theorem readOperand_of_head {t : Token} {us : List Token} {name : String}
    (ht : t.kind = .mark .star ∨ NameOf [t] name) :
    readOperand stop (t :: us) =
      (readColumnRef stop (t :: us)).map fun r =>
        ⟨.column ⟨r.value.1, r.value.2, .plain⟩, r.rest, r.shorter⟩ := by
  have hcolumn : readOperand stop (t :: us) = (do
      let r ← readColumnRef stop (t :: us)
      return ⟨.column ⟨r.value.1, r.value.2, .plain⟩, r.rest, r.shorter⟩) := by
    rw [readOperand]
    rcases ht with ht | ht
    · simp only [ht]
    · cases ht with
      | identifier ht => simp only [ht]
      | @keyword _ k ht hr => cases k <;> simp_all [Keyword.isReserved]
  rw [hcolumn]
  cases readColumnRef stop (t :: us) <;> rfl

theorem reads_operand : Reads (readOperand stop) OperandOf [.mark .dot] where
  sound := by
    rintro ts operand rest ⟨hlt, h⟩
    unfold readOperand at h
    split at h
    · cases h
    · next t rest' =>
        split at h
        · next content ht =>
            cases h
            exact ⟨[t], rfl, .string ht⟩
        · next digits ht =>
            obtain ⟨v, hv, h⟩ := bind_eq_ok_iff.mp h
            cases h
            exact ⟨[t], rfl, .numeral ht (numeralLiteral_eq_ok_iff.mp hv)⟩
        · next ht =>
            cases h
            exact ⟨[t], rfl, .true ht⟩
        · next ht =>
            cases h
            exact ⟨[t], rfl, .false ht⟩
        · next ht =>
            cases h
            exact ⟨[t], rfl, .null ht⟩
        · next ht =>
            obtain ⟨⟨digits, r₂, h₂⟩, hdigits, h⟩ := bind_eq_ok_iff.mp h
            obtain ⟨v, hv, h⟩ := bind_eq_ok_iff.mp h
            obtain ⟨us, hus, u, rfl, hu⟩ :=
              (reads_numeral stop).sound (takes_of_ok hdigits)
            cases h
            exact ⟨[t, u], by simpa using hus,
              .negative ht hu (numeralLiteral_eq_ok_iff.mp hv)⟩
        · obtain ⟨⟨⟨relation, name⟩, r₂, h₂⟩, href, h⟩ := bind_eq_ok_iff.mp h
          obtain ⟨body, hts, hreference⟩ :=
            (reads_reference stop).sound (takes_of_ok href)
          cases h
          exact ⟨body, hts, .column hreference⟩
  complete := by
    intro body rest operand h hrest
    cases h with
    | string ht => exact ⟨Nat.lt_succ_self _, by simp [readOperand, ht]⟩
    | numeral ht hv =>
        refine ⟨Nat.lt_succ_self _, ?_⟩
        simp [readOperand, ht, numeralLiteral_eq_ok_iff.mpr hv]
    | @negative minus t digits v hminus ht hv =>
        obtain ⟨h₁, hdigits⟩ := takes_numeral stop rest ht
        refine ⟨by
          simp only [List.length_append, List.length_cons, List.length_nil]
          omega, ?_⟩
        simp [readOperand, hminus, hdigits, numeralLiteral_eq_ok_iff.mpr hv]
    | true ht => exact ⟨Nat.lt_succ_self _, by simp [readOperand, ht]⟩
    | false ht => exact ⟨Nat.lt_succ_self _, by simp [readOperand, ht]⟩
    | null ht => exact ⟨Nat.lt_succ_self _, by simp [readOperand, ht]⟩
    | column href =>
        have htakes := (reads_reference stop).complete href hrest
        obtain ⟨t, us, name, rfl, ht⟩ := href.exists_head
        rw [List.cons_append] at htakes ⊢
        obtain ⟨hlt, hread⟩ := htakes
        refine ⟨hlt, ?_⟩
        rw [readOperand_of_head stop ht, hread]
        rfl

theorem reads_comparison : Reads (readComparison stop) ComparisonOf [] where
  sound := by
    rintro ts comparison rest ⟨hlt, h⟩
    unfold readComparison at h
    split at h
    · cases h
    · next t rest' =>
        split at h
        case h_1 ht => cases h; exact ⟨[t], rfl, .mark ht .equal⟩
        case h_2 ht => cases h; exact ⟨[t], rfl, .mark ht .notEqual⟩
        case h_3 ht => cases h; exact ⟨[t], rfl, .mark ht .lessThan⟩
        case h_4 ht => cases h; exact ⟨[t], rfl, .mark ht .lessOrEqual⟩
        case h_5 ht => cases h; exact ⟨[t], rfl, .mark ht .greaterThan⟩
        case h_6 ht => cases h; exact ⟨[t], rfl, .mark ht .greaterOrEqual⟩
        case h_7 ht => cases h; exact ⟨[t], rfl, .like ht⟩
        case h_8 ht =>
          obtain ⟨⟨_, r₂, h₂⟩, hlike, h⟩ := bind_eq_ok_iff.mp h
          obtain ⟨us, hus, u, rfl, hu⟩ :=
            (reads_keyword stop .LIKE).sound (takes_of_ok hlike)
          cases h
          exact ⟨[t, u], by simpa using hus, .notLike ht hu⟩
        case h_9 => cases h
  complete := by
    intro body rest comparison h _
    cases h with
    | mark ht hm =>
        refine ⟨Nat.lt_succ_self _, ?_⟩
        cases hm <;> simp [readComparison, ht]
    | like ht => exact ⟨Nat.lt_succ_self _, by simp [readComparison, ht]⟩
    | notLike ht hu =>
        obtain ⟨h₁, hlike⟩ := takes_keyword stop rest hu
        refine ⟨by
          simp only [List.length_append, List.length_cons, List.length_nil]
          omega, ?_⟩
        simp [readComparison, ht, hlike]

/-- A comparison does not begin with a dot. -/
theorem ComparisonOf.avoids_dot {ts rest : List Token}
    {comparison : Comparison} (h : ComparisonOf ts comparison) :
    Avoids [.mark .dot] (ts ++ rest) := by
  cases h with
  | mark ht hm => cases hm <;> simp [ht]
  | like ht => simp [ht]
  | notLike ht => simp [ht]

theorem reads_condition :
    Reads (readCondition stop) ConditionOf [.mark .dot] where
  sound := by
    rintro ts condition rest ⟨hlt, h⟩
    unfold readCondition at h
    obtain ⟨⟨left, r₁, h₁⟩, hleft, h⟩ := bind_eq_ok_iff.mp h
    obtain ⟨⟨comparison, r₂, h₂⟩, hcomparison, h⟩ := bind_eq_ok_iff.mp h
    obtain ⟨⟨right, r₃, h₃⟩, hright, h⟩ := bind_eq_ok_iff.mp h
    obtain ⟨ls, hts, hl⟩ := (reads_operand stop).sound (takes_of_ok hleft)
    obtain ⟨os, hr₁, ho⟩ :=
      (reads_comparison stop).sound (takes_of_ok hcomparison)
    obtain ⟨rs, hr₂, hr⟩ := (reads_operand stop).sound (takes_of_ok hright)
    cases h
    refine ⟨ls ++ (os ++ rs), ?_, .of hl ho hr⟩
    dsimp only at hts hr₁ hr₂
    simp [hts, hr₁, hr₂]
  complete := by
    intro body rest condition h hrest
    cases h with
    | @of ls os rs left comparison right hl ho hr =>
        obtain ⟨h₁, hleft⟩ := (reads_operand stop).complete hl
          (ho.avoids_dot : Avoids _ (os ++ (rs ++ rest)))
        obtain ⟨h₂, hcomparison⟩ :=
          (reads_comparison stop).complete ho (avoids_none (rs ++ rest))
        obtain ⟨h₃, hright⟩ := (reads_operand stop).complete hr hrest
        rw [List.append_assoc, List.append_assoc]
        refine ⟨by omega, ?_⟩
        simp [readCondition, hleft, hcomparison, hright]

/-! ## Column definitions -/

theorem plainType?_eq_some_iff {k : Keyword} {type : ColumnType} :
    k.plainType? = some type ↔ TypeWord k type := by
  constructor
  · intro h
    cases k <;> cases h <;> constructor
  · rintro ⟨⟩ <;> rfl

theorem characterType?_eq_some {k : Keyword} {toType : Option Nat → ColumnType}
    (h : k.characterType? = some toType) :
    (k = .CHAR ∧ toType = fun length => .char (length.getD 1)) ∨
      (k = .VARCHAR ∧ toType = fun _ => .varchar) := by
  cases k <;> simp_all [Keyword.characterType?, eq_comm]

theorem readLength?_sound {ts rest : List Token} {n : Nat}
    {hlt : rest.length < ts.length}
    (h : readLength? stop ts = .ok (some ⟨n, rest, hlt⟩)) :
    ∃ body, ts = body ++ rest ∧ LengthOf body n := by
  unfold readLength? at h
  split at h
  · cases h
  · next r₁ h₁ hdrop =>
      obtain ⟨opening, hts, hopen⟩ := eq_cons_of_dropKind? hdrop
      obtain ⟨⟨digits, r₂, h₂⟩, hdigits, h⟩ := bind_eq_ok_iff.mp h
      obtain ⟨us, hr₁, t, rfl, ht⟩ :=
        (reads_numeral stop).sound (takes_of_ok hdigits)
      dsimp only at h hr₁
      split at h
      · cases h
      · cases h
      · next length hpos hlength =>
          obtain ⟨⟨_, r₃, h₃⟩, hmark, h⟩ := bind_eq_ok_iff.mp h
          obtain ⟨vs, hr₂, close, rfl, hclose⟩ :=
            (reads_mark stop .rightParen).sound (takes_of_ok hmark)
          cases h
          refine ⟨[opening, t, close], ?_,
            .of hopen ht hlength (Nat.pos_of_ne_zero hpos) hclose⟩
          dsimp only at hr₂
          simp [hts, hr₁, hr₂]

theorem readLength?_complete {body : List Token} {n : Nat} (rest : List Token)
    (h : LengthOf body n) :
    ∃ hlt, readLength? stop (body ++ rest) = .ok (some ⟨n, rest, hlt⟩) := by
  cases h with
  | @of opening t close digits n hopen ht hlength hpos hclose =>
      obtain ⟨h₁, hdigits⟩ := takes_numeral stop (close :: rest) ht
      obtain ⟨h₂, hmark⟩ := takes_mark stop rest hclose
      refine ⟨by
        simp only [List.length_append, List.length_cons, List.length_nil]
        omega, ?_⟩
      obtain ⟨m, rfl⟩ := Nat.exists_eq_succ_of_ne_zero (Nat.ne_of_gt hpos)
      simp [readLength?, dropMark?_eq, dropKind?_cons _ hopen, hdigits, hlength,
        hmark]

theorem reads_type : Reads (readType stop) TypeOf [.mark .leftParen] where
  sound := by
    rintro ts type rest ⟨hlt, h⟩
    unfold readType at h
    split at h
    · cases h
    · next t rest' =>
        split at h
        · next k ht =>
            split at h
            · next htype =>
                cases h
                exact ⟨[t], rfl, .word ht (plainType?_eq_some_iff.mp htype)⟩
            · next toType _ htype =>
                obtain ⟨length, hlength, h⟩ := bind_eq_ok_iff.mp h
                split at h
                · cases h
                  rcases characterType?_eq_some htype with
                    ⟨rfl, rfl⟩ | ⟨rfl, rfl⟩
                  · exact ⟨[t], rfl, .char ht⟩
                  · exact ⟨[t], rfl, .varchar ht⟩
                · obtain ⟨us, hus, hl⟩ := readLength?_sound stop hlength
                  cases h
                  refine ⟨t :: us, by simp [hus], ?_⟩
                  rcases characterType?_eq_some htype with
                    ⟨rfl, rfl⟩ | ⟨rfl, rfl⟩
                  · exact .charOf ht hl
                  · exact .varcharOf ht hl
            · cases h
        · cases h
  complete := by
    intro body rest type h hrest
    have hnone : readLength? stop rest = .ok none := by
      simp [readLength?, dropMark?_eq, dropKind?_eq_none hrest]
    cases h with
    | word ht hword =>
        refine ⟨Nat.lt_succ_self _, ?_⟩
        simp [readType, ht, plainType?_eq_some_iff.mpr hword]
    | char ht =>
        refine ⟨Nat.lt_succ_self _, ?_⟩
        simp [readType, ht, Keyword.plainType?, Keyword.characterType?, hnone]
    | charOf ht hlength =>
        obtain ⟨h₁, hread⟩ := readLength?_complete stop rest hlength
        refine ⟨Nat.lt_trans h₁ (Nat.lt_succ_self _), ?_⟩
        simp [readType, ht, Keyword.plainType?, Keyword.characterType?, hread]
    | varchar ht =>
        refine ⟨Nat.lt_succ_self _, ?_⟩
        simp [readType, ht, Keyword.plainType?, Keyword.characterType?, hnone]
    | varcharOf ht hlength =>
        obtain ⟨h₁, hread⟩ := readLength?_complete stop rest hlength
        refine ⟨Nat.lt_trans h₁ (Nat.lt_succ_self _), ?_⟩
        simp [readType, ht, Keyword.plainType?, Keyword.characterType?, hread]

theorem reads_column :
    Reads (readColumn stop) ColumnOf
      [.mark .leftParen, .keyword .NOT, .keyword .NULL] where
  sound := by
    rintro ts column rest ⟨hlt, h⟩
    unfold readColumn at h
    obtain ⟨⟨name, r₁, h₁⟩, hname, h⟩ := bind_eq_ok_iff.mp h
    obtain ⟨⟨type, r₂, h₂⟩, htype, h⟩ := bind_eq_ok_iff.mp h
    obtain ⟨ns, hns, hn⟩ := (reads_name stop).sound (takes_of_ok hname)
    obtain ⟨us, hus, ht⟩ := (reads_type stop).sound (takes_of_ok htype)
    dsimp only at h hns hus
    split at h
    · next r₃ h₃ hnot =>
        obtain ⟨⟨_, r₄, h₄⟩, hnull, h⟩ := bind_eq_ok_iff.mp h
        obtain ⟨t, hr₂, hkt⟩ := eq_cons_of_dropKind? hnot
        obtain ⟨vs, hr₃, u, rfl, hku⟩ :=
          (reads_keyword stop .NULL).sound (takes_of_ok hnull)
        cases h
        refine ⟨ns ++ (us ++ [t, u]), ?_, .of hn ht (.notNull hkt hku)⟩
        simp [hns, hus, hr₂, hr₃]
    · split at h
      · next r₃ h₃ hnull =>
          obtain ⟨t, hr₂, hkt⟩ := eq_cons_of_dropKind? hnull
          cases h
          refine ⟨ns ++ (us ++ [t]), ?_, .of hn ht (.null hkt)⟩
          simp [hns, hus, hr₂]
      · cases h
        refine ⟨ns ++ (us ++ []), ?_, .of hn ht .unsaid⟩
        simp [hns, hus]
  complete := by
    intro body rest column h hrest
    cases h with
    | @of ns ts us name type nullable hname htype hnull =>
        obtain ⟨h₁, hreadName⟩ :=
          (reads_name stop).complete hname (avoids_none (ts ++ (us ++ rest)))
        have hafter : Avoids [.mark .leftParen] (us ++ rest) := by
          cases hnull with
          | unsaid => exact hrest.subset (by simp)
          | null ht => simp [ht]
          | notNull ht => simp [ht]
        obtain ⟨h₂, hreadType⟩ := (reads_type stop).complete htype hafter
        rw [List.append_assoc, List.append_assoc]
        refine ⟨by simp at h₁ h₂ ⊢; omega, ?_⟩
        simp only [readColumn, hreadName, hreadType, ok_bind, dropKeyword?_eq]
        cases hnull with
        | unsaid =>
            have hnot : dropKind? (.keyword .NOT) rest = none :=
              dropKind?_eq_none (hrest.subset (by simp))
            have hno : dropKind? (.keyword .NULL) rest = none :=
              dropKind?_eq_none (hrest.subset (by simp))
            simp [hnot, hno]
        | @null t ht =>
            have hnot : dropKind? (.keyword .NOT) (t :: rest) = none :=
              dropKind?_eq_none (by simp [ht])
            simp [hnot, dropKind?_cons _ ht]
        | notNull ht hu =>
            obtain ⟨h₃, hreadNull⟩ := takes_keyword stop rest hu
            simp [dropKind?_cons _ ht, hreadNull]

end QueryBind.Sql
