import QueryBind.Proofs.Schema.Tables
import QueryBind.Proofs.Sql.Writing
import QueryBind.Proofs.Value.Numbers
import QueryBind.Schema.Script

/-!
# Tables as their statements

A table shows itself by a CREATE TABLE statement with its names as they are,
without quotes. That is read again as the creation of the table if each name is
a word that may be a name, and if each type is one that a statement can ask for:
the type of NULL has a text but no column has it, and a fixed length is positive
and below the largest there is. All tables are like this that were created by
statements in which no name is quoted.
-/

namespace QueryBind

open Sql Number

/-! ## Names as words -/

namespace Sql

/-- A name that can stand without quotes: a word, and no reserved one. -/
structure IsBareName (name : String) : Prop where
  word : IsWord name.toList
  not_reserved : ∀ k, Keyword.ofWord? name.toList = some k → k.isReserved = false

theorem IsBareName.nameOf {name : String} (h : IsBareName name) :
    NameOf (tokensOf [.word name.toList]) name := by
  cases hk : Keyword.ofWord? name.toList with
  | none =>
      refine .identifier ?_
      simp [Lexeme.token, Lexeme.kind, hk, String.ofList_toList]
  | some k =>
      -- The name of a keyword is its text, so letter case is kept.
      have htext : ((Lexeme.word name.toList).token Position.start).text = name :=
        String.ofList_toList
      have hkind : ((Lexeme.word name.toList).token Position.start).kind =
          .keyword k := by
        simp [Lexeme.token, Lexeme.kind, hk]
      have hof := NameOf.keyword hkind (h.not_reserved k hk)
      rwa [htext] at hof

theorem IsBareName.writes {name : String} (h : IsBareName name) :
    Writes NameOf name.toList name :=
  ⟨_, .word h.word, h.nameOf⟩

/-- A token of a lexeme that is no name between quotes. -/
def Token.IsBare (t : Token) : Prop :=
  ∃ l : Lexeme, l.IsFormed ∧ (∀ content, l ≠ .name content) ∧
    l.token Position.start = t

/-- Only a word stands for a keyword or, without quotes, for an identifier. -/
theorem Token.IsBare.exists_word {t : Token} (h : t.IsBare)
    (hkind : (∃ name, t.kind = .identifier name) ∨ ∃ k, t.kind = .keyword k) :
    ∃ letters, IsWord letters ∧
      (Lexeme.word letters).token Position.start = t := by
  obtain ⟨l, hformed, hname, rfl⟩ := h
  cases l with
  | word letters => exact ⟨letters, hformed, rfl⟩
  | name content => exact absurd rfl (hname content)
  | numeral digits => rcases hkind with ⟨_, hkind⟩ | ⟨_, hkind⟩ <;> cases hkind
  | string content => rcases hkind with ⟨_, hkind⟩ | ⟨_, hkind⟩ <;> cases hkind
  | mark m spelling => rcases hkind with ⟨_, hkind⟩ | ⟨_, hkind⟩ <;> cases hkind

theorem NameOf.isBareName {ts : List Token} {name : String} (h : NameOf ts name)
    (hts : ∀ t ∈ ts, t.IsBare) : IsBareName name := by
  cases h with
  | identifier hkind =>
      obtain ⟨letters, hword, rfl⟩ :=
        (hts _ List.mem_cons_self).exists_word (.inl ⟨name, hkind⟩)
      simp only [Lexeme.token, Lexeme.kind] at hkind
      split at hkind
      · cases hkind
      · next hnone =>
          cases hkind
          rw [← String.toList_ofList (l := letters)] at hword hnone
          refine ⟨hword, fun k hk => ?_⟩
          rw [hnone] at hk
          cases hk
  | @keyword _ k hkind hreserved =>
      obtain ⟨letters, hword, rfl⟩ :=
        (hts _ List.mem_cons_self).exists_word (.inr ⟨k, hkind⟩)
      simp only [Lexeme.token, Lexeme.kind] at hkind
      split at hkind
      · next hsome =>
          cases hkind
          rw [← String.toList_ofList (l := letters)] at hword hsome
          refine ⟨hword, fun k' hk' => ?_⟩
          have heq := hsome.symm.trans hk'
          cases heq
          exact hreserved
      · cases hkind

end Sql

/-! ## Types -/

/-- A type that a column of a statement can have. -/
def ColumnType.IsWritable : ColumnType → Prop
  | .null => False
  | .char n => 0 < n ∧ n < UInt64.size
  | _ => True

namespace Sql

theorem TypeOf.isWritable {ts : List Token} {type : ColumnType}
    (h : TypeOf ts type) : type.IsWritable := by
  cases h with
  | word _ hword => cases hword <;> trivial
  | char _ => exact ⟨by decide, by decide⟩
  | charOf _ hlength =>
      obtain ⟨-, -, hn, hpos, -⟩ := hlength
      refine ⟨hpos, ?_⟩
      unfold length? at hn
      split at hn
      · cases hn
      · obtain ⟨m, -, hm⟩ := Option.bind_eq_some_iff.mp hn
        split at hm
        · next hlt =>
            cases hm
            exact hlt
        · cases hm
  | varchar _ => trivial
  | varcharOf _ _ => trivial

end Sql

/-- The digits of a number, of which there is one at least. -/
theorem exists_digits (n : Nat) : ∃ c cs, Nat.toDigits 10 n = c :: cs ∧
    c.isDigit = true ∧ ∀ d ∈ cs, d.isDigit = true := by
  have hdigits : ∀ d ∈ Nat.toDigits 10 n, d.isDigit = true :=
    fun d hd => Nat.isDigit_of_mem_toDigits (by decide) (by decide) hd
  cases heq : Nat.toDigits 10 n with
  | nil => exact absurd heq (Nat.toDigits_ne_nil)
  | cons c cs =>
      rw [heq, List.forall_mem_cons] at hdigits
      exact ⟨c, cs, rfl, hdigits.1, hdigits.2⟩

theorem length?_toDigits {n : Nat} (h : n < UInt64.size) :
    length? (String.ofList (Nat.toDigits 10 n)) = some n := by
  obtain ⟨c, cs, heq, hc, hcs⟩ := exists_digits n
  have hvalue : digitsValue (c :: cs) = n := by
    rw [← heq]
    exact Nat.ofDigitChars_toDigits (by decide) (by decide)
  have hall : (c :: cs).all Char.isDigit = true := by
    simpa [hc] using hcs
  have hnatural : natural? (c :: cs) = some n := by
    rw [natural?, if_pos ⟨List.cons_ne_nil c cs, hall⟩, hvalue]
  rw [length?, heq, String.toList_ofList, splitSign_of_isDigit cs hc]
  simp [hnatural, h]

theorem ColumnType.IsWritable.writes {type : ColumnType} (h : type.IsWritable) :
    Writes TypeOf type.text.toList type := by
  have hword : ∀ {k : Keyword}, TypeWord k type → k.spelling = type.text →
      Writes TypeOf type.text.toList type := by
    intro k hk hspelling
    rw [← hspelling]
    exact ⟨_, .keyword k, .word (kind_spelling k) hk⟩
  cases type with
  | null => cases h
  | boolean => exact hword .boolean rfl
  | integer => exact hword .integer rfl
  | bigint => exact hword .bigint rfl
  | float => exact hword .float rfl
  | double => exact hword .double rfl
  | varchar =>
      have hspelling : Keyword.VARCHAR.spelling = ColumnType.varchar.text := rfl
      rw [← hspelling]
      exact ⟨_, .keyword .VARCHAR, .varchar (kind_spelling .VARCHAR)⟩
  | date => exact hword .date rfl
  | char n =>
      obtain ⟨hpos, hlt⟩ := h
      obtain ⟨c, cs, heq, hc, hcs⟩ := exists_digits n
      have hlength := length?_toDigits hlt
      rw [heq] at hlength
      have hdigits : Yields (c :: cs ++ [')'])
          ([.numeral (c :: cs)] ++ [.mark .rightParen [')']]) :=
        (Yields.digits hc hcs).append (by decide) (.mark rfl (by decide) .nil)
      have hall := (Yields.keyword .CHAR).append (by decide)
        (Yields.mark (c := '(') rfl (by decide) hdigits)
      have htext : (ColumnType.char n).text.toList =
          Keyword.CHAR.spelling.toList ++ '(' :: (c :: cs ++ [')']) := by
        rw [← heq]
        simp [ColumnType.text, Keyword.spelling, toString]
      rw [htext]
      refine ⟨_, hall, ?_⟩
      have hnumeral : ((Lexeme.numeral (c :: cs)).token Position.start).kind =
          .numeral (String.ofList (c :: cs)) := rfl
      exact .charOf (kind_spelling .CHAR)
        (.of (kind_mark _ _) hnumeral hlength hpos (kind_mark _ _))

/-! ## Definitions -/

/-- A definition whose table shows itself by a statement that makes it. -/
structure TableDefinition.IsWritable (d : TableDefinition) : Prop where
  name : IsBareName d.name
  columns : ∀ c ∈ d.columns, IsBareName c.name ∧ c.type.IsWritable

namespace Sql

theorem CreateTableOf.isWritable {ts : List Token} {d : TableDefinition}
    (h : CreateTableOf ts d) (hts : ∀ t ∈ ts, t.IsBare) : d.IsWritable := by
  obtain ⟨-, -, hname, -, hcolumns, -⟩ := h
  refine ⟨hname.isBareName fun t ht => hts t (by simp [ht]), fun c hc => ?_⟩
  obtain ⟨us, hus, hcolumn⟩ := hcolumns.exists_of_mem hc
  obtain ⟨hcolumn_name, htype, -⟩ := hcolumn
  refine ⟨hcolumn_name.isBareName fun t ht => hts t ?_, htype.isWritable⟩
  have hmem := hus (List.mem_append_left _ ht)
  simp [hmem]

/-- The tables that a script without quoted names creates. -/
theorem ScriptOf.isWritable {ts : List Token} {sts : List Statement}
    (h : ScriptOf ts sts) (hts : ∀ t ∈ ts, t.IsBare) {d : TableDefinition}
    (hd : .createTable d ∈ sts) : d.IsWritable := by
  cases h with
  | empty _ => cases hd
  | statements _ hsts _ =>
      obtain ⟨us, hus, hst⟩ := hsts.exists_of_mem hd
      cases hst with
      | createTable hcreate =>
          refine hcreate.isWritable fun t ht => hts t ?_
          exact List.mem_append_right _ (List.mem_append_left _ (hus ht))

end Sql

/-! ## The statement of a table -/

theorem Field.writes_columnText {f : Field} (hname : IsBareName f.name)
    (htype : f.type.IsWritable) :
    Writes ColumnOf f.columnText.toList (Table.columnOf f) := by
  obtain ⟨ns, hns, hnameOf⟩ := hname.writes
  obtain ⟨ts, hts, htypeOf⟩ := htype.writes
  have hfront : Yields (' ' :: ' ' :: (f.name.toList ++ ' ' :: f.type.text.toList))
      (ns ++ ts) :=
    .blank (by decide) (.blank (by decide)
      (hns.append (by decide) (.blank (by decide) hts)))
  cases hnullable : f.nullable with
  | true =>
      refine ⟨ns ++ ts, by simpa [columnText, hnullable] using hfront, ?_⟩
      have hof := ColumnOf.of hnameOf htypeOf .unsaid
      simpa [Table.columnOf, hnullable] using hof
  | false =>
      have hnotNull : Yields (' ' :: (Keyword.NOT.spelling.toList ++
          ' ' :: Keyword.NULL.spelling.toList))
          ([.word Keyword.NOT.spelling.toList] ++ [.word Keyword.NULL.spelling.toList]) :=
        .blank (by decide) ((Yields.keyword .NOT).append (by decide)
          (.blank (by decide) (.keyword .NULL)))
      have hall := hfront.append (by decide) hnotNull
      have htext : f.columnText.toList = ' ' :: ' ' :: (f.name.toList ++
          ' ' :: f.type.text.toList) ++ (' ' :: (Keyword.NOT.spelling.toList ++
          ' ' :: Keyword.NULL.spelling.toList)) := by
        simp [columnText, hnullable, Keyword.spelling]
      rw [htext]
      refine ⟨_, hall, ?_⟩
      have hof := ColumnOf.of hnameOf htypeOf
        (.notNull (kind_spelling .NOT) (kind_spelling .NULL))
      simpa [Table.columnOf, hnullable] using hof

/-- The columns of a table, each in a line of its own. -/
theorem Table.writes_columns {t : Table} (h : t.definition.IsWritable) :
    Writes (Listed ColumnOf)
      (",\n".intercalate (t.userFields.map (·.columnText))).toList
      t.definition.columns := by
  have hcolumns := t.userFields_map_columnOf
  have hfields : t.userFields ≠ [] := by
    intro hempty
    rw [hempty] at hcolumns
    exact t.valid.columns_ne_nil hcolumns.symm
  rw [← hcolumns]
  refine Writes.lines hfields fun f hf => ?_
  have hmem : columnOf f ∈ t.definition.columns :=
    hcolumns ▸ List.mem_map_of_mem hf
  obtain ⟨hname, htype⟩ := h.columns _ hmem
  exact Field.writes_columnText hname htype

/-- **A table is created again by the statement that it shows itself by.** The
semicolon at its end is not part of the statement. -/
theorem Table.exists_createStatement {t : Table} (h : t.definition.IsWritable) :
    ∃ cs, t.createStatement.toList = cs ++ [';'] ∧
      Writes StatementOf cs (.createTable t.definition) := by
  obtain ⟨ns, hns, hnameOf⟩ := h.name.writes
  obtain ⟨ls, hls, hlisted⟩ := t.writes_columns h
  let lines := (",\n".intercalate (t.userFields.map (·.columnText))).toList
  have hclose : Yields (lines ++ '\n' :: [')']) (ls ++ [.mark .rightParen [')']]) :=
    hls.append (by decide) (.blank (by decide) (.mark rfl (by decide) .nil))
  have hopen : Yields (' ' :: '(' :: '\n' :: (lines ++ '\n' :: [')']))
      (.mark .leftParen ['('] :: (ls ++ [.mark .rightParen [')']])) :=
    .blank (by decide) (.mark rfl (by decide) (.blank (by decide) hclose))
  have hall := (Yields.keyword .CREATE).append (by decide)
    (Yields.blank (c := ' ') (by decide) ((Yields.keyword .TABLE).append (by decide)
      (Yields.blank (c := ' ') (by decide) (hns.append (by decide) hopen))))
  have htext : t.createStatement.toList = Keyword.CREATE.spelling.toList ++
      (' ' :: (Keyword.TABLE.spelling.toList ++ (' ' :: (t.name.toList ++
        ' ' :: '(' :: '\n' :: (lines ++ '\n' :: [')']))))) ++ [';'] := by
    show ("CREATE TABLE " ++ t.name ++ " (\n" ++
      ",\n".intercalate (t.userFields.map (·.columnText)) ++ "\n);").toList = _
    simp [Keyword.spelling, lines]
  refine ⟨_, htext, _, hall, .createTable ?_⟩
  have hof := CreateTableOf.of (kind_spelling .CREATE) (kind_spelling .TABLE)
    hnameOf (kind_mark .leftParen ['(']) hlisted (kind_mark .rightParen [')'])
  simpa using hof

end QueryBind
