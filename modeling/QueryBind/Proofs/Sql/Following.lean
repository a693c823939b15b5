import Mathlib.Data.List.TakeWhile
import QueryBind.Proofs.Results
import QueryBind.Proofs.Sql.Cursor

/-!
# The cursor stays in front of the end

A reading with the cursor does, on any tokens, what the readers of a sentence do on the
list of tokens before the first end: wherever the cursor stands up to that end, both
refuse with the same error, or both read the same value and the cursor is then on the
first of the tokens that the reader leaves. So the cursor is never asked for a token
that is not there, never moved while it stands on the end, and every reading ends.

`Agrees` says this of one reading at one place, and `Agrees.bind` composes it. There is
one lemma for each reader; the loops go by their rounds, of which there are more than
tokens left before the end, since every reader leaves fewer.

## Main definitions

- `Row`: tokens, cut at the first end among them.
- `Agrees`, `Follows`: a reading and a reader come to the same.

## Main results

- `comesTo_sentence`: on any tokens, a reading ends and comes to what the sentence
  comes to, and what stands behind an end does not matter.
-/

namespace QueryBind.Sql.Cursor

/-! ## Steps in a row -/

section Steps

variable {α β : Type} {walk : Walk α} {next : α → Walk β} {i j : Nat}

theorem pure_apply (a : α) : (pure a : Walk α) i = some (.ok (a, i)) := rfl

theorem bind_of_ok {a : α} (h : walk i = some (.ok (a, j))) :
    (walk >>= next) i = next a j := by
  simp [bind, StateT.bind, ExceptT.bind, ExceptT.mk, ExceptT.bindCont, h]

theorem bind_of_error {e : Halt} (h : walk i = some (.error e)) :
    (walk >>= next) i = some (.error e) := by
  simp [bind, StateT.bind, ExceptT.bind, ExceptT.mk, ExceptT.bindCont, h, pure]

end Steps

/-! ## Tokens cut at an end -/

@[simp] theorem found_nil (stop : Token) : found stop [] = stop := rfl

@[simp] theorem found_cons (stop t : Token) (ts : List Token) : found stop (t :: ts) = t := rfl

/-- Tokens in a row, cut at the first of them that is an end. -/
structure Row where
  before : List Token
  stop : Token
  after : List Token
  isOpen : ∀ t ∈ before, t.isFinish = false
  isEnd : stop.isFinish = true

def Row.tokens (r : Row) : List Token := r.before ++ r.stop :: r.after

variable {r : Row} {i : Nat}

namespace Row

/-- Under the cursor is what a reader finds. -/
theorem getElem?_tokens (hi : i ≤ r.before.length) :
    r.tokens[i]? = some (found r.stop (r.before.drop i)) := by
  rcases Nat.lt_or_eq_of_le hi with hlt | rfl
  · rw [tokens, List.getElem?_append_left hlt]
    simp [found, List.headD_eq_head?_getD, List.head?_drop, hlt]
  · simp [tokens, found]

/-- The cursor is on the end, or on the first of the tokens that are left. -/
theorem cases_drop (hi : i ≤ r.before.length) :
    (i = r.before.length ∧ r.before.drop i = []) ∨
      ∃ t, i < r.before.length ∧ r.before.drop i = t :: r.before.drop (i + 1) := by
  rcases Nat.lt_or_eq_of_le hi with hlt | rfl
  · exact .inr ⟨_, hlt, List.drop_eq_getElem_cons hlt⟩
  · exact .inl ⟨rfl, List.drop_length⟩

theorem kind_stop : r.stop.kind = .finish := by
  simpa [Token.isFinish] using r.isEnd

/-- A reader finds an end where no tokens are left, and only there. -/
theorem isFinish_found (hi : i ≤ r.before.length) :
    (found r.stop (r.before.drop i)).isFinish = (r.before.drop i).isEmpty := by
  obtain ⟨-, hdrop⟩ | ⟨t, -, hdrop⟩ := cases_drop hi
  · rw [hdrop]
    exact r.isEnd
  · have ht : t ∈ r.before := List.mem_of_mem_drop (hdrop ▸ List.mem_cons_self)
    rw [hdrop]
    exact r.isOpen t ht

end Row

/-! ## Looking and moving -/

theorem tokenAt_apply (hi : i ≤ r.before.length) (k : Nat) :
    tokenAt r.tokens i k = some (.ok (found r.stop (r.before.drop i), k)) := by
  simp only [tokenAt, Row.getElem?_tokens hi]
  rfl

theorem current_apply (hi : i ≤ r.before.length) :
    current r.tokens i = some (.ok (found r.stop (r.before.drop i), i)) := by
  have hmin : min i (r.tokens.length - 1) = i := by
    simp only [Row.tokens, List.length_append, List.length_cons]
    omega
  rw [current, bind_of_ok (show (get : Walk Nat) i = some (.ok (i, i)) from rfl), hmin]
  exact tokenAt_apply hi i

theorem upcoming_apply (hi : i < r.before.length) :
    upcoming r.tokens i = some (.ok (found r.stop (r.before.drop (i + 1)), i)) := by
  have hlt : i + 1 < r.tokens.length := by
    simp only [Row.tokens, List.length_append, List.length_cons]
    omega
  rw [upcoming, bind_of_ok (show (get : Walk Nat) i = some (.ok (i, i)) from rfl), if_pos hlt]
  exact tokenAt_apply hi i

theorem advance_apply (hi : i < r.before.length) :
    advance r.tokens i = some (.ok ((), i + 1)) := by
  have hend := Row.isFinish_found (Nat.le_of_lt hi)
  rw [List.isEmpty_eq_false_iff.mpr (by simpa using hi)] at hend
  rw [advance, bind_of_ok (current_apply (Nat.le_of_lt hi)), hend]
  rfl

/-! ## Agreement -/

section Agreement

variable {ρ σ α β : Type}

/-- A reading with the cursor and one with the list come to the same: the same error,
or results that match, wherever the cursor is then. -/
def Agrees (fits : ρ → α → Nat → Prop) (w : Option (Except Halt (α × Nat)))
    (x : Except ParseError ρ) : Prop :=
  match x with
  | .ok p => ∃ a j, fits p a j ∧ w = some (.ok (a, j))
  | .error e => w = some (.error (.refused e))

/-- One reading after another. -/
theorem Agrees.bind {fits : ρ → α → Nat → Prop} {fits' : σ → β → Nat → Prop}
    {walk : Walk α} {next : α → Walk β} {x : Except ParseError ρ}
    {f : ρ → Except ParseError σ} (hwalk : Agrees fits (walk i) x)
    (hnext : ∀ p a j, fits p a j → Agrees fits' (next a j) (f p)) :
    Agrees fits' ((walk >>= next) i) (x >>= f) := by
  cases x with
  | error e =>
      rw [bind_of_error hwalk]
      rfl
  | ok p =>
      obtain ⟨a, j, hfits, hw⟩ := hwalk
      rw [bind_of_ok hw]
      exact hnext p a j hfits

/-- The value that was taken, with the cursor on the first of the tokens that are
left. -/
def Row.Leaves (r : Row) {ts : List Token} (taken : Taken Token α ts) (a : α) (j : Nat) :
    Prop :=
  taken.value = a ∧ j ≤ r.before.length ∧ taken.rest = r.before.drop j

/-- The reading agrees with the reader wherever the cursor stands up to the end. -/
def Follows (r : Row) (walk : Walk α) (reader : Reader α) : Prop :=
  ∀ i ≤ r.before.length, Agrees r.Leaves (walk i) (reader (r.before.drop i))

theorem agrees_pure {ts : List Token} {a : α} (hi : i ≤ r.before.length)
    {h : (r.before.drop i).length < ts.length} :
    Agrees r.Leaves ((pure a : Walk α) i) (.ok (⟨a, r.before.drop i, h⟩ : Taken Token α ts)) :=
  ⟨a, i, ⟨rfl, hi, rfl⟩, rfl⟩

theorem Follows.bind {fits : σ → β → Nat → Prop} {walk : Walk α} {reader : Reader α}
    {next : α → Walk β} {f : Taken Token α (r.before.drop i) → Except ParseError σ}
    (hwalk : Follows r walk reader) (hi : i ≤ r.before.length)
    (hnext : ∀ a j h, j ≤ r.before.length → Agrees fits (next a j) (f ⟨a, r.before.drop j, h⟩)) :
    Agrees fits ((walk >>= next) i) (reader (r.before.drop i) >>= f) := by
  refine (hwalk i hi).bind ?_
  rintro ⟨a, rest, h⟩ _ j ⟨rfl, hj, rfl⟩
  exact hnext a j h hj

/-- A reading that begins with a look at the token under the cursor. -/
theorem follows_of_current {next : Token → Walk α} {reader : Reader α}
    (hend : r.before.drop r.before.length = [] →
      Agrees r.Leaves (next r.stop r.before.length) (reader []))
    (htoken : ∀ i t, i < r.before.length → r.before.drop i = t :: r.before.drop (i + 1) →
      Agrees r.Leaves (next t i) (reader (t :: r.before.drop (i + 1)))) :
    Follows r (current r.tokens >>= next) reader := by
  intro i hi
  rw [bind_of_ok (current_apply hi)]
  obtain ⟨rfl, hdrop⟩ | ⟨t, hlt, hdrop⟩ := Row.cases_drop hi
  · rw [hdrop]
    exact hend hdrop
  · rw [hdrop]
    exact htoken i t hlt hdrop

theorem agrees_refuse {ts : List Token} {expected : Expectation} {fits : ρ → α → Nat → Prop}
    (hi : i ≤ r.before.length) (hts : r.before.drop i = ts) :
    Agrees fits ((refuse r.tokens expected : Walk α) i)
      (.error (unexpected r.stop expected ts)) := by
  subst hts
  change (refuse r.tokens expected : Walk α) i = _
  rw [refuse, bind_of_ok (current_apply hi)]
  rfl

/-- One token is taken. -/
theorem agrees_advance {next : Unit → Walk α} {x : Except ParseError ρ}
    {fits : ρ → α → Nat → Prop} (hi : i < r.before.length)
    (hnext : Agrees fits (next () (i + 1)) x) :
    Agrees fits ((advance r.tokens >>= next) i) x := by
  rw [bind_of_ok (advance_apply hi)]
  exact hnext

/-- What a test for one token does to the cursor is what dropping such a token does to
the list. -/
def Passes (r : Row) (walk : Walk Bool)
    (drop? : (ts : List Token) → Option { rest : List Token // rest.length < ts.length }) :
    Prop :=
  ∀ i ≤ r.before.length,
    (drop? (r.before.drop i) = none ∧ walk i = some (.ok (false, i))) ∨
      i < r.before.length ∧ walk i = some (.ok (true, i + 1)) ∧
        ∃ h, drop? (r.before.drop i) = some ⟨r.before.drop (i + 1), h⟩

/-- A reading that goes on in one way behind a token that passes, and in another without
it. -/
theorem Passes.choose {walk : Walk Bool}
    {drop? : (ts : List Token) → Option { rest : List Token // rest.length < ts.length }}
    {yes no : Walk α} {x : Except ParseError ρ} {fits : ρ → α → Nat → Prop}
    (hwalk : Passes r walk drop?) (hi : i ≤ r.before.length)
    (hyes : ∀ h, i < r.before.length →
      drop? (r.before.drop i) = some ⟨r.before.drop (i + 1), h⟩ → Agrees fits (yes (i + 1)) x)
    (hno : drop? (r.before.drop i) = none → Agrees fits (no i) x) :
    Agrees fits ((walk >>= fun passed => if passed then yes else no) i) x := by
  obtain ⟨hdrop, hw⟩ | ⟨hlt, hw, h, hdrop⟩ := hwalk i hi
  · rw [bind_of_ok hw]
    exact hno hdrop
  · rw [bind_of_ok hw]
    exact hyes h hlt hdrop

end Agreement

/-! ## Single tokens -/

theorem isMark_stop (m : Mark) : r.stop.isMark m = false := by
  simp [Token.isMark, Row.kind_stop]

theorem isKeyword_stop (k : Keyword) : r.stop.isKeyword k = false := by
  simp [Token.isKeyword, Row.kind_stop]

/-- A mark is under the cursor exactly if it can be dropped. -/
theorem isMark_found (m : Mark) (ts : List Token) :
    (found r.stop ts).isMark m = (dropMark? m ts).isSome := by
  cases ts with
  | nil => simp [dropMark?, dropHead?, isMark_stop]
  | cons t rest => cases ht : t.isMark m <;> simp [dropMark?, dropHead?, ht]

theorem passes_tryToken {test : Token → Bool} (hstop : test r.stop = false) :
    Passes r (tryToken r.tokens test) (dropHead? test) := by
  intro i hi
  rw [tryToken, bind_of_ok (current_apply hi)]
  obtain ⟨-, hdrop⟩ | ⟨t, hlt, hdrop⟩ := Row.cases_drop hi
  · refine .inl ?_
    rw [hdrop]
    simp [hstop, dropHead?, pure_apply]
  · cases ht : test t with
    | false =>
        refine .inl ?_
        rw [hdrop]
        simp [ht, dropHead?, pure_apply]
    | true =>
        refine .inr ⟨hlt, ?_, ?_⟩
        · have hget : (get : Walk Nat) i = some (.ok (i, i)) := rfl
          have htoken : discard (tokenAt r.tokens i) i = some (.ok (⟨⟩, i)) := by
            simp only [discard, Functor.discard, tokenAt, Row.getElem?_tokens hi]
            rfl
          rw [hdrop]
          simp only [found_cons, ht, if_true]
          rw [bind_of_ok hget, bind_of_ok htoken, bind_of_ok (advance_apply hlt)]
          rfl
        · rw [hdrop]
          simp [dropHead?, ht]

theorem passes_tryMark (m : Mark) : Passes r (tryMark r.tokens m) (dropMark? m) :=
  passes_tryToken (isMark_stop m)

theorem passes_tryKeyword (k : Keyword) : Passes r (tryKeyword r.tokens k) (dropKeyword? k) :=
  passes_tryToken (isKeyword_stop k)

theorem follows_mark (m : Mark) : Follows r (mark r.tokens m) (readMark r.stop m) := by
  intro i hi
  refine (passes_tryMark m).choose hi (fun h hlt hdrop => ?_) fun hdrop => ?_
  · simp only [readMark, hdrop]
    exact agrees_pure hlt
  · simp only [readMark, hdrop]
    rw [bind_of_ok (current_apply hi)]
    rfl

theorem mark_of_dropMark? {m : Mark} {dropped : _} (hi : i ≤ r.before.length)
    (hdrop : dropMark? m (r.before.drop i) = some dropped) :
    mark r.tokens m i = some (.ok ((), i + 1)) := by
  obtain ⟨hnone, -⟩ | ⟨-, hw, -⟩ := passes_tryMark m i hi
  · rw [hnone] at hdrop
    cases hdrop
  · rw [mark, bind_of_ok hw]
    rfl

theorem follows_keyword (k : Keyword) :
    Follows r (keyword r.tokens k) (readKeyword r.stop k) := by
  intro i hi
  refine (passes_tryKeyword k).choose hi (fun h hlt hdrop => ?_) fun hdrop => ?_
  · simp only [readKeyword, hdrop]
    exact agrees_pure hlt
  · simp only [readKeyword, hdrop]
    rw [bind_of_ok (current_apply hi)]
    rfl

theorem follows_name : Follows r (name r.tokens) (readName r.stop) := by
  refine follows_of_current (fun hdrop => ?_) fun i t hlt hdrop => ?_
  · simp only [Token.name?, Row.kind_stop]
    exact agrees_refuse (Nat.le_refl _) hdrop
  · simp only [readName]
    cases t.name? with
    | none => exact agrees_refuse (Nat.le_of_lt hlt) hdrop
    | some name => exact agrees_advance hlt (agrees_pure hlt)

theorem follows_numeral : Follows r (numeral r.tokens) (readNumeral r.stop) := by
  refine follows_of_current (fun hdrop => ?_) fun i t hlt hdrop => ?_
  · simp only [Row.kind_stop]
    exact agrees_refuse (Nat.le_refl _) hdrop
  · simp only [readNumeral]
    cases t.kind with
    | numeral digits => exact agrees_advance hlt (agrees_pure hlt)
    | _ => exact agrees_refuse (Nat.le_of_lt hlt) hdrop

/-- One or more of the same. Each of them takes a token, so that the rounds suffice if
they are more than the tokens that are left. -/
theorem agrees_separated {α : Type} {one : Walk α} {separator : Walk Bool}
    {readOne : Reader α}
    {drop? : (ts : List Token) → Option { rest : List Token // rest.length < ts.length }}
    (hone : Follows r one readOne) (hseparator : Passes r separator drop?) {rounds : Nat}
    (hi : i ≤ r.before.length) (hrounds : r.before.length < rounds + i) :
    Agrees r.Leaves (separated one separator rounds i)
      (readSeparated readOne drop? (r.before.drop i)) := by
  induction rounds generalizing i with
  | zero => omega
  | succ rounds ih =>
      rw [separated, readSeparated]
      refine hone.bind hi fun a j hshort hj => ?_
      have hij : i < j := by
        rw [List.length_drop, List.length_drop] at hshort
        omega
      refine hseparator.choose hj (fun _ hlt hdrop => ?_) fun hdrop => ?_
      · simp only [hdrop]
        refine Agrees.bind (ih hlt (by omega)) ?_
        rintro ⟨as, rest, _⟩ _ k ⟨rfl, hk, rfl⟩
        exact agrees_pure hk
      · simp only [hdrop]
        exact agrees_pure hj

theorem follows_separated {α : Type} {one : Walk α} {separator : Walk Bool}
    {readOne : Reader α}
    {drop? : (ts : List Token) → Option { rest : List Token // rest.length < ts.length }}
    (hone : Follows r one readOne) (hseparator : Passes r separator drop?) {rounds : Nat}
    (hrounds : r.before.length < rounds) :
    Follows r (separated one separator rounds) (readSeparated readOne drop?) :=
  fun _ hi => agrees_separated hone hseparator hi (by omega)

/-! ## Columns and calls -/

theorem follows_part : Follows r (part r.tokens) (readPart r.stop) := by
  intro i hi
  refine (passes_tryMark .star).choose hi (fun h hlt hdrop => ?_) fun hdrop => ?_
  · simp only [readPart, hdrop]
    exact agrees_pure hlt
  · simp only [readPart, hdrop]
    exact follows_name i hi

theorem follows_columnRef : Follows r (columnRef r.tokens) (readColumnRef r.stop) := by
  intro i hi
  refine follows_part.bind hi fun first j h hj => ?_
  refine (passes_tryMark .dot).choose hj (fun _ hlt hdrop => ?_) fun hdrop => ?_
  · simp only [hdrop]
    exact follows_part.bind hlt fun second k _ hk => agrees_pure hk
  · simp only [hdrop]
    exact agrees_pure hj

/-- The head of a call is its keyword and an opening parenthesis; the cursor stays in
front of both. -/
theorem callHead_cases (hi : i ≤ r.before.length) :
    (callHead? (r.before.drop i) = none ∧ callHead r.tokens i = some (.ok (none, i))) ∨
      ∃ f h h', i + 1 < r.before.length ∧ callHead r.tokens i = some (.ok (some f, i)) ∧
        callHead? (r.before.drop i) = some ⟨f, r.before.drop (i + 2), h⟩ ∧
        dropMark? .leftParen (r.before.drop (i + 1)) = some ⟨r.before.drop (i + 2), h'⟩ := by
  rw [callHead, bind_of_ok (current_apply hi)]
  obtain ⟨-, hdrop⟩ | ⟨t, hlt, hdrop⟩ := Row.cases_drop hi
  · rw [hdrop, found_nil, Row.kind_stop]
    exact .inl ⟨rfl, rfl⟩
  · rw [hdrop, found_cons]
    cases hkind : t.kind with
    | keyword k =>
        cases hf : k.aggregate? with
        | none =>
            refine .inl ⟨?_, ?_⟩
            · cases r.before.drop (i + 1) <;> simp [callHead?, hkind, hf]
            · simp only [hf]
              rfl
        | some f =>
            simp only [hf]
            rw [bind_of_ok (upcoming_apply hlt)]
            obtain ⟨-, hdrop'⟩ | ⟨u, hlt', hdrop'⟩ := Row.cases_drop hlt
            · rw [hdrop', found_nil, isMark_stop]
              exact .inl ⟨rfl, rfl⟩
            · rw [hdrop', found_cons]
              cases hu : u.isMark .leftParen with
              | false => exact .inl ⟨by simp [callHead?, hkind, hu], rfl⟩
              | true =>
                  have hshort : (r.before.drop (i + 2)).length <
                      (r.before.drop (i + 2)).length + 2 := by omega
                  exact .inr ⟨f, hshort, by simp, hlt', rfl,
                    by simp [callHead?, hkind, hu, hf], by simp [dropMark?, dropHead?, hu]⟩
    | _ =>
        refine .inl ⟨?_, rfl⟩
        cases r.before.drop (i + 1) <;> simp [callHead?, hkind]

/-- An item, if the lists of items that begin behind the cursor are read alike. -/
theorem agrees_item {inner : Walk (List Item)} (hi : i ≤ r.before.length)
    (hinner : ∀ j ≤ r.before.length, i < j →
      Agrees r.Leaves (inner j) (readItems r.stop (r.before.drop j))) :
    Agrees r.Leaves (item r.tokens inner i) (readItem r.stop (r.before.drop i)) := by
  rw [item, readItem]
  obtain ⟨hnone, hw⟩ | ⟨f, h, h', hlt, hw, hsome, hparen⟩ := callHead_cases hi
  · rw [bind_of_ok hw]
    simp only [hnone]
    exact follows_columnRef.bind hi fun c j _ hj => agrees_pure hj
  · rw [bind_of_ok hw]
    simp only [hsome]
    rw [call]
    refine agrees_advance (Nat.lt_of_succ_lt hlt) ?_
    rw [bind_of_ok (mark_of_dropMark? (Nat.le_of_lt hlt) hparen),
      bind_of_ok (current_apply hlt), isMark_found]
    obtain ⟨hopen, -⟩ | ⟨hlt', -, _, hclose⟩ := passes_tryMark .rightParen (i + 2) hlt
    · simp only [hopen]
      refine Agrees.bind (hinner (i + 2) hlt (by omega)) ?_
      rintro ⟨arguments, rest, _⟩ _ j ⟨rfl, hj, rfl⟩
      exact (follows_mark .rightParen).bind hj fun _ k _ hk => agrees_pure hk
    · simp only [hclose]
      rw [Option.isSome_some, if_pos rfl, bind_of_ok (pure_apply _),
        bind_of_ok (mark_of_dropMark? hlt hclose)]
      exact agrees_pure hlt'

/-- A list of items. Each of them takes a token, and so does the head of a call in front
of its arguments. -/
theorem agrees_items {rounds : Nat} (hi : i ≤ r.before.length)
    (hrounds : r.before.length < rounds + i) :
    Agrees r.Leaves (items r.tokens rounds i) (readItems r.stop (r.before.drop i)) := by
  induction rounds generalizing i with
  | zero => omega
  | succ rounds ih =>
      rw [items, readItems]
      refine Agrees.bind (agrees_item hi fun j hj hij => ih hj (by omega)) ?_
      rintro ⟨a, rest, hshort⟩ _ j ⟨rfl, hj, rfl⟩
      have hij : i < j := by
        rw [List.length_drop, List.length_drop] at hshort
        omega
      refine (passes_tryMark .comma).choose hj (fun _ hlt hdrop => ?_) fun hdrop => ?_
      · simp only [hdrop]
        refine Agrees.bind (ih hlt (by omega)) ?_
        rintro ⟨as, rest, _⟩ _ k ⟨rfl, hk, rfl⟩
        exact agrees_pure hk
      · simp only [hdrop]
        exact agrees_pure hj

theorem follows_items {rounds : Nat} (hrounds : r.before.length < rounds) :
    Follows r (items r.tokens rounds) (readItems r.stop) :=
  fun _ hi => agrees_items hi (by omega)

/-! ## Conditions -/

theorem agrees_literal (text : String) :
    Agrees (fun v a j => v = a ∧ j = i) (literal text i) (numeralLiteral text) := by
  rw [literal, numeralLiteral]
  cases Literal.ofNumeral? text with
  | none => rfl
  | some v => exact ⟨v, i, ⟨rfl, rfl⟩, rfl⟩

/-- A column as an operand. -/
theorem agrees_column (hi : i ≤ r.before.length) :
    Agrees r.Leaves
      ((columnRef r.tokens >>= fun c => pure (Operand.column ⟨c.1, c.2, .plain⟩)) i)
      (readColumnRef r.stop (r.before.drop i) >>= fun c =>
        pure (⟨.column ⟨c.value.1, c.value.2, .plain⟩, c.rest, c.shorter⟩ :
          Taken Token Operand (r.before.drop i))) :=
  follows_columnRef.bind hi fun _ _ _ hj => agrees_pure hj

theorem follows_operand : Follows r (operand r.tokens) (readOperand r.stop) := by
  refine follows_of_current (fun hdrop => ?_) fun i t hlt hdrop => ?_
  · have hcolumn := agrees_column (Nat.le_refl r.before.length)
    rw [hdrop] at hcolumn
    simp only [Row.kind_stop]
    exact hcolumn
  · have hcolumn := agrees_column (Nat.le_of_lt hlt)
    rw [hdrop] at hcolumn
    rw [readOperand]
    cases t.kind with
    | string content => exact agrees_advance hlt (agrees_pure hlt)
    | numeral digits =>
        refine (agrees_literal digits).bind ?_
        rintro v _ _ ⟨rfl, rfl⟩
        exact agrees_advance hlt (agrees_pure hlt)
    | keyword k =>
        cases k with
        | TRUE | FALSE | NULL => exact agrees_advance hlt (agrees_pure hlt)
        | _ => exact hcolumn
    | mark m =>
        cases m with
        | minus =>
            refine agrees_advance hlt (follows_numeral.bind hlt fun digits j _ hj => ?_)
            refine (agrees_literal ("-" ++ digits)).bind ?_
            rintro v _ _ ⟨rfl, rfl⟩
            exact agrees_pure hj
        | _ => exact hcolumn
    | _ => exact hcolumn

theorem follows_comparison : Follows r (comparison r.tokens) (readComparison r.stop) := by
  refine follows_of_current (fun hdrop => ?_) fun i t hlt hdrop => ?_
  · simp only [Row.kind_stop, comparison?, isKeyword_stop]
    exact agrees_refuse (Nat.le_refl _) hdrop
  · rw [readComparison, Token.isKeyword]
    cases t.kind with
    | keyword k =>
        cases k with
        | LIKE => exact agrees_advance hlt (agrees_pure hlt)
        | NOT =>
            refine agrees_advance hlt ?_
            exact (follows_keyword .LIKE).bind hlt fun _ j _ hj => agrees_pure hj
        | _ => exact agrees_refuse (Nat.le_of_lt hlt) hdrop
    | mark m =>
        cases m with
        | equals | notEquals | lessThan | lessThanOrEqual | greaterThan | greaterThanOrEqual =>
            exact agrees_advance hlt (agrees_pure hlt)
        | _ => exact agrees_refuse (Nat.le_of_lt hlt) hdrop
    | _ => exact agrees_refuse (Nat.le_of_lt hlt) hdrop

theorem follows_condition : Follows r (condition r.tokens) (readCondition r.stop) := by
  intro i hi
  refine follows_operand.bind hi fun left j _ hj => ?_
  refine follows_comparison.bind hj fun c k _ hk => ?_
  exact follows_operand.bind hk fun right l _ hl => agrees_pure hl

/-! ## Types and column definitions -/

/-- The length that was taken, if there is one. -/
def Row.LeavesLength (r : Row) (i : Nat) {ts : List Token} (taken? : Option (Taken Token Nat ts))
    (length? : Option Nat) (j : Nat) : Prop :=
  match taken? with
  | none => length? = none ∧ j = i
  | some taken => ∃ length, length? = some length ∧ r.Leaves taken length j

theorem agrees_typeLength (hi : i ≤ r.before.length) :
    Agrees (r.LeavesLength i) (typeLength r.tokens i) (readLength? r.stop (r.before.drop i)) := by
  refine (passes_tryMark .leftParen).choose hi (fun _ hlt hdrop => ?_) fun hdrop => ?_
  · simp only [readLength?, hdrop]
    refine follows_numeral.bind hlt fun digits j _ hj => ?_
    dsimp only
    cases Number.length? digits with
    | none => rfl
    | some length =>
        cases length with
        | zero => rfl
        | succ n =>
            refine (follows_mark .rightParen).bind hj fun _ k _ hk => ?_
            exact ⟨_, k, ⟨_, rfl, rfl, hk, rfl⟩, rfl⟩
  · simp only [readLength?, hdrop]
    exact ⟨none, i, ⟨rfl, rfl⟩, rfl⟩

theorem follows_dataType : Follows r (dataType r.tokens) (readType r.stop) := by
  refine follows_of_current (fun hdrop => ?_) fun i t hlt hdrop => ?_
  · rw [Row.kind_stop]
    exact agrees_refuse (Nat.le_refl _) hdrop
  · rw [readType]
    cases t.kind with
    | keyword k =>
        dsimp only
        cases k.plainType? with
        | some type => exact agrees_advance hlt (agrees_pure hlt)
        | none =>
            cases k.characterType? with
            | none => exact agrees_refuse (Nat.le_of_lt hlt) hdrop
            | some type =>
                refine agrees_advance hlt ((agrees_typeLength hlt).bind ?_)
                rintro (_ | ⟨length, rest, _⟩) _ j hleaves
                · obtain ⟨rfl, rfl⟩ := hleaves
                  exact agrees_pure hlt
                · obtain ⟨_, rfl, rfl, hj, rfl⟩ := hleaves
                  exact agrees_pure hj
    | _ => exact agrees_refuse (Nat.le_of_lt hlt) hdrop

theorem follows_column : Follows r (column r.tokens) (readColumn r.stop) := by
  intro i hi
  refine follows_name.bind hi fun name j _ hj => ?_
  refine follows_dataType.bind hj fun type k _ hk => ?_
  refine (passes_tryKeyword .NOT).choose hk (fun _ hlt hdrop => ?_) fun hdrop => ?_
  · simp only [hdrop]
    exact (follows_keyword .NULL).bind hlt fun _ l _ hl => agrees_pure hl
  · simp only [hdrop]
    refine (passes_tryKeyword .NULL).choose hk (fun _ hlt hdrop' => ?_) fun hdrop' => ?_
    · simp only [hdrop']
      exact agrees_pure hlt
    · simp only [hdrop']
      exact agrees_pure hk

/-! ## Statements -/

section Rounds

variable {rounds : Nat}

theorem follows_select (hrounds : r.before.length < rounds) :
    Follows r (select r.tokens rounds) (readSelect r.stop) := by
  intro i hi
  refine (follows_keyword .SELECT).bind hi fun _ j _ hj => ?_
  refine (follows_items hrounds).bind hj fun items k _ hk => ?_
  refine (follows_keyword .FROM).bind hk fun _ l _ hl => ?_
  refine (follows_separated follows_name (passes_tryMark .comma) hrounds).bind hl
    fun relations m _ hm => ?_
  refine (passes_tryKeyword .WHERE).choose hm (fun _ hlt hdrop => ?_) fun hdrop => ?_
  · simp only [hdrop]
    exact (follows_separated follows_condition (passes_tryKeyword .AND) hrounds).bind hlt
      fun conditions n _ hn => agrees_pure hn
  · simp only [hdrop]
    exact agrees_pure hm

theorem follows_createTable (hrounds : r.before.length < rounds) :
    Follows r (createTable r.tokens rounds) (readCreateTable r.stop) := by
  intro i hi
  refine (follows_keyword .CREATE).bind hi fun _ j _ hj => ?_
  refine (follows_keyword .TABLE).bind hj fun _ k _ hk => ?_
  refine follows_name.bind hk fun name l _ hl => ?_
  refine (follows_mark .leftParen).bind hl fun _ m _ hm => ?_
  refine (follows_separated follows_column (passes_tryMark .comma) hrounds).bind hm
    fun columns n _ hn => ?_
  exact (follows_mark .rightParen).bind hn fun _ o _ ho => agrees_pure ho

theorem follows_dropTable : Follows r (dropTable r.tokens) (readDropTable r.stop) := by
  intro i hi
  refine (follows_keyword .DROP).bind hi fun _ j _ hj => ?_
  refine (follows_keyword .TABLE).bind hj fun _ k _ hk => ?_
  rw [← bind_pure (name r.tokens)]
  exact follows_name.bind hk fun name l _ hl => agrees_pure hl

theorem follows_statement (hrounds : r.before.length < rounds) :
    Follows r (statement r.tokens rounds) (readStatement r.stop) := by
  intro i hi
  rw [statement, bind_of_ok (current_apply hi), readStatement]
  cases (found r.stop (r.before.drop i)).kind with
  | keyword k =>
      cases k with
      | SELECT => exact (follows_select hrounds).bind hi fun s j _ hj => agrees_pure hj
      | CREATE => exact (follows_createTable hrounds).bind hi fun d j _ hj => agrees_pure hj
      | DROP => exact follows_dropTable.bind hi fun name j _ hj => agrees_pure hj
      | _ => exact agrees_refuse hi rfl
  | _ => exact agrees_refuse hi rfl

/-! ## Whole sentences -/

/-- The tokens before the end, and the end. -/
def Row.sentence (r : Row) : Sentence := ⟨r.before, r.stop⟩

/-- The value itself, wherever the cursor is. -/
def Yields {α : Type} (b a : α) (_ : Nat) : Prop := a = b

theorem dropWhile_of_dropHead?_eq_none {σ : Type} {test : σ → Bool} {xs : List σ}
    (h : dropHead? test xs = none) : xs.dropWhile test = xs := by
  cases xs with
  | nil => rfl
  | cons x rest => cases hx : test x <;> simp_all [dropHead?]

theorem dropWhile_of_dropHead?_eq_some {σ : Type} {test : σ → Bool} {xs : List σ} {dropped : _}
    (h : dropHead? test xs = some dropped) :
    xs.dropWhile test = dropped.val.dropWhile test := by
  cases xs with
  | nil => cases h
  | cons x rest =>
      cases hx : test x with
      | false => simp [dropHead?, hx] at h
      | true =>
          rw [dropHead?, if_pos hx] at h
          cases h
          rw [List.dropWhile_cons_of_pos hx]

/-- All semicolons under and behind the cursor are passed. -/
theorem semicolons_apply (hi : i ≤ r.before.length) (hrounds : r.before.length < rounds + i) :
    ∃ j ≤ r.before.length, semicolons r.tokens rounds i = some (.ok ((), j)) ∧
      (r.before.drop i).dropWhile (·.isMark .semicolon) = r.before.drop j := by
  induction rounds generalizing i with
  | zero => omega
  | succ rounds ih =>
      rw [semicolons]
      obtain ⟨hdrop, hw⟩ | ⟨hlt, hw, _, hdrop⟩ := passes_tryMark .semicolon i hi
      · rw [bind_of_ok hw]
        exact ⟨i, hi, rfl, dropWhile_of_dropHead?_eq_none hdrop⟩
      · rw [bind_of_ok hw, dropWhile_of_dropHead?_eq_some hdrop]
        exact ih hlt (by omega)

theorem agrees_onlyStatement (hrounds : r.before.length < rounds) :
    Agrees Yields (onlyStatement r.tokens rounds 0) r.sentence.statement := by
  refine (follows_statement hrounds).bind (Nat.zero_le _) fun st j _ hj => ?_
  obtain ⟨k, hk, hw, hdrop⟩ := semicolons_apply hj (show r.before.length < rounds + j by omega)
  rw [bind_of_ok hw, bind_of_ok (current_apply hk), Row.isFinish_found hk]
  dsimp only
  rw [hdrop]
  obtain ⟨-, hdrop⟩ | ⟨t, hlt, hdrop⟩ := Row.cases_drop hk
  · rw [hdrop]
    exact ⟨st, k, rfl, rfl⟩
  · rw [hdrop]
    change refuse r.tokens .endOfStatement k = _
    rw [refuse, bind_of_ok (current_apply hk), hdrop]
    rfl

end Rounds

/-- Statements, from the cursor on. Each of them takes a token, and so does a semicolon. -/
theorem agrees_statementsOf {one : Walk Statement} {rounds : Nat}
    (hone : Follows r one (readStatement r.stop)) (hi : i ≤ r.before.length)
    (hrounds : r.before.length < rounds + i) :
    Agrees Yields (statementsOf r.tokens one rounds i)
      (readStatements r.stop (r.before.drop i)) := by
  induction rounds generalizing i with
  | zero => omega
  | succ rounds ih =>
      rw [statementsOf, readStatements, bind_of_ok (current_apply hi), Row.isFinish_found hi]
      cases hempty : (r.before.drop i).isEmpty with
      | true =>
          have hnil : r.before.drop i = [] := List.isEmpty_iff.mp hempty
          rw [hnil]
          exact ⟨[], i, rfl, rfl⟩
      | false =>
          refine (passes_tryMark .semicolon).choose hi (fun _ hlt hdrop => ?_) fun hdrop => ?_
          · simp only [hdrop]
            exact ih hlt (by omega)
          · simp only [hdrop]
            refine hone.bind hi fun st j hshort hj => ?_
            have hij : i < j := by
              rw [List.length_drop, List.length_drop] at hshort
              omega
            have hmore : ∀ k ≤ r.before.length, i < k → Agrees Yields
                ((statementsOf r.tokens one rounds >>= fun rest => pure (st :: rest)) k)
                (readStatements r.stop (r.before.drop k) >>= fun rest => pure (st :: rest)) := by
              intro k hk hik
              refine (ih hk (by omega)).bind ?_
              rintro rest _ l rfl
              exact ⟨_, l, rfl, rfl⟩
            rw [bind_of_ok (current_apply hj), Row.isFinish_found hj]
            dsimp only
            cases hlast : (r.before.drop j).isEmpty with
            | true =>
                have hend := hmore j hj hij
                rw [List.isEmpty_iff.mp hlast, readStatements] at hend
                exact hend
            | false =>
                refine (follows_mark .semicolon).bind hj fun _ k hshort' hk => ?_
                rw [List.length_drop, List.length_drop] at hshort'
                exact hmore k hk (by omega)

theorem agrees_statements {rounds : Nat} (hrounds : r.before.length < rounds) :
    Agrees Yields (statements r.tokens rounds 0) r.sentence.statements :=
  agrees_statementsOf (follows_statement hrounds) (Nat.zero_le _) hrounds

/-- The tokens with their end, cut at the first end among them, are the sentence. -/
theorem exists_row (ts : List Token) :
    ∃ r : Row, ended ts = r.tokens ∧ Sentence.ofTokens ts = r.sentence ∧
      r.before.length ≤ ts.length := by
  cases hfind : ts.find? (·.isFinish) with
  | none =>
      have hopen : ∀ t ∈ ts, t.isFinish = false := by simpa using hfind
      refine ⟨⟨ts, finishAfter ts.getLast?, [], hopen, by cases ts.getLast? <;> rfl⟩, ?_, ?_,
        Nat.le_refl _⟩
      · have hlast : ts.getLast?.any (·.isFinish) = false := by
          cases h : ts.getLast? with
          | none => rfl
          | some t => exact hopen t (List.mem_of_getLast? h)
        rw [ended, hlast]
        rfl
      · rw [Sentence.ofTokens, hfind, List.takeWhile_eq_self_iff.mpr (by simpa using hopen)]
        rfl
  | some stop =>
      obtain ⟨hstop, before, after, rfl, hopen⟩ := List.find?_eq_some_iff_append.mp hfind
      have hopen : ∀ t ∈ before, t.isFinish = false := by simpa using hopen
      have hended : ∃ after', ended (before ++ stop :: after) = before ++ stop :: after' := by
        rw [ended]
        split
        · exact ⟨after, rfl⟩
        · exact ⟨_, List.append_assoc ..⟩
      obtain ⟨after', hended⟩ := hended
      have hlength : before.length ≤ (before ++ stop :: after).length := by
        rw [List.length_append]
        omega
      refine ⟨⟨before, stop, after', hopen, hstop⟩, hended, ?_, hlength⟩
      rw [Sentence.ofTokens, hfind, List.takeWhile_append_of_pos (by simpa using hopen),
        List.takeWhile_cons_of_neg (by simp [hstop]), List.append_nil]
      rfl

theorem comesTo_of_agrees {α : Type} {walk : List Token → Nat → Walk α} {ts : List Token}
    {x : Sentence → Except ParseError α}
    (h : ∀ (r : Row) rounds, r.before.length < rounds →
      Agrees Yields (walk r.tokens rounds 0) (x r.sentence)) :
    ComesTo walk ts ((x (Sentence.ofTokens ts)).mapError .refused) := by
  intro rounds hrounds
  obtain ⟨r, hrow, hsentence, hlength⟩ := exists_row ts
  have hagrees := h r rounds (by omega)
  rw [hrow, hsentence]
  cases hx : x r.sentence with
  | error e =>
      rw [hx] at hagrees
      change walk r.tokens rounds 0 = some (.error (.refused e)) at hagrees
      simp [StateT.run', Functor.map, ExceptT.map, ExceptT.mk, hagrees, Except.mapError, pure]
  | ok a =>
      rw [hx] at hagrees
      obtain ⟨_, j, rfl, hw⟩ := hagrees
      simp [StateT.run', Functor.map, ExceptT.map, ExceptT.mk, hw, Except.mapError, pure]

/-- An end that is there hides what is behind it. -/
theorem ofTokens_append {before after after' : List Token} {stop : Token}
    (hstop : stop.isFinish = true) :
    Sentence.ofTokens (before ++ stop :: after) = Sentence.ofTokens (before ++ stop :: after') := by
  simp [Sentence.ofTokens, List.takeWhile_append, List.find?_append, hstop]

/-- **The cursor reads the sentence, and stays in front of the first end.** Whatever
kinds of tokens there are in whatever order, with ends in the middle, repeated or
missing, both readings end. They never look where there is no token and never move over
an end: they come to the statement or the statements that the sentence comes to, or to
its error. Nothing that stands behind an end matters to them. -/
theorem comesTo_sentence (ts : List Token) :
    ComesTo onlyStatement ts ((Sentence.ofTokens ts).statement.mapError .refused) ∧
      ComesTo statements ts ((Sentence.ofTokens ts).statements.mapError .refused) ∧
      ∀ before stop after, ts = before ++ stop :: after → stop.isFinish = true → ∀ after',
        ComesTo onlyStatement (before ++ stop :: after')
            ((Sentence.ofTokens ts).statement.mapError .refused) ∧
          ComesTo statements (before ++ stop :: after')
            ((Sentence.ofTokens ts).statements.mapError .refused) := by
  have hone : ∀ ts, ComesTo onlyStatement ts
      ((Sentence.ofTokens ts).statement.mapError .refused) :=
    fun ts => comesTo_of_agrees fun _ _ => agrees_onlyStatement
  have hall : ∀ ts, ComesTo statements ts
      ((Sentence.ofTokens ts).statements.mapError .refused) :=
    fun ts => comesTo_of_agrees fun _ _ => agrees_statements
  refine ⟨hone ts, hall ts, ?_⟩
  rintro before stop after rfl hstop after'
  rw [ofTokens_append hstop]
  exact ⟨hone _, hall _⟩

end QueryBind.Sql.Cursor
