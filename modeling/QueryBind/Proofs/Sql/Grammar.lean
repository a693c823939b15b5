import QueryBind.Sql.Statement
import QueryBind.Sql.Token

/-!
# The grammar of statements

Which lists of tokens are a statement, and which statement each of them
derives. A relation `List Token → α → Prop` is a *phrase*: the token lists of
one kind, each with the tree it derives. Phrases are put together by
concatenation only. Nothing here says how a list is read, in which order, or
what may follow a phrase; that is the business of the readers, which are shown
to accept exactly these phrases.
-/

namespace QueryBind.Sql

/-! ## Repetition -/

/-- A single token of a kind. -/
def One (kind : TokenKind) (ts : List Token) : Prop :=
  ∃ t, ts = [t] ∧ t.kind = kind

/-- One or more phrases with separators between them. -/
inductive Separated {α : Type} (separator : List Token → Prop)
    (one : List Token → α → Prop) : List Token → List α → Prop where
  | single {ts a} : one ts a → Separated separator one ts [a]
  | more {ts sep rest a as} : one ts a → separator sep →
      Separated separator one rest as →
      Separated separator one (ts ++ (sep ++ rest)) (a :: as)

/-- What is repeated is made of tokens of the whole. -/
theorem Separated.exists_of_mem {α : Type} {separator : List Token → Prop}
    {one : List Token → α → Prop} {ts : List Token} {as : List α} {a : α}
    (h : Separated separator one ts as) (ha : a ∈ as) : ∃ us ⊆ ts, one us a := by
  induction h with
  | single hone =>
      obtain rfl := List.mem_singleton.mp ha
      exact ⟨_, List.Subset.refl _, hone⟩
  | more hone _ _ ih =>
      rcases List.mem_cons.mp ha with rfl | ha
      · exact ⟨_, List.subset_append_left _ _, hone⟩
      · obtain ⟨us, hus, hone'⟩ := ih ha
        refine ⟨us, fun t ht => ?_, hone'⟩
        exact List.mem_append_right _ (List.mem_append_right _ (hus ht))

/-- Separated by single commas. -/
abbrev Listed {α : Type} (one : List Token → α → Prop) :
    List Token → List α → Prop :=
  Separated (One (.mark .comma)) one

/-! ## Names and columns -/

/-- An identifier, or a keyword that is not reserved. -/
inductive NameOf : List Token → String → Prop where
  | identifier {t name} : t.kind = .identifier name → NameOf [t] name
  | keyword {t k} : t.kind = .keyword k → k.isReserved = false →
      NameOf [t] t.text

/-- A name or a star. -/
inductive PartOf : List Token → String → Prop where
  | star {t} : t.kind = .mark .star → PartOf [t] wildcard
  | name {ts name} : NameOf ts name → PartOf ts name

/-- A part alone, or after another one and a dot. -/
inductive ReferenceOf : List Token → Option String × String → Prop where
  | alone {ts name} : PartOf ts name → ReferenceOf ts (none, name)
  | qualified {us dot ts relation name} : PartOf us relation →
      dot.kind = .mark .dot → PartOf ts name →
      ReferenceOf (us ++ dot :: ts) (some relation, name)

/-! ## Entries of a SELECT list -/

/-- The words for the aggregate functions. -/
inductive AggregateWord : Keyword → AggregateFunction → Prop where
  | count : AggregateWord .COUNT .count
  | sum : AggregateWord .SUM .sum
  | avg : AggregateWord .AVG .avg
  | min : AggregateWord .MIN .min
  | max : AggregateWord .MAX .max

/-- An aggregate word with its opening parenthesis. -/
inductive HeadOf : List Token → AggregateFunction → Prop where
  | of {t u k f} : t.kind = .keyword k → AggregateWord k f →
      u.kind = .mark .leftParen → HeadOf [t, u] f

/-- A reference, or a call of any entries or none. -/
inductive ItemOf : List Token → Item → Prop where
  | column {ts relation name} : ReferenceOf ts (relation, name) →
      ItemOf ts (.column relation name)
  | emptyCall {head close f} : HeadOf head f →
      close.kind = .mark .rightParen → ItemOf (head ++ [close]) (.call f [])
  | call {head inside close f arguments} : HeadOf head f →
      Separated (One (.mark .comma)) ItemOf inside arguments →
      close.kind = .mark .rightParen →
      ItemOf (head ++ (inside ++ [close])) (.call f arguments)

/-! ## Attributes of entries -/

/-- The item is a call, whatever its arguments are. -/
def Item.IsCall (item : Item) : Prop := ∃ f arguments, item = .call f arguments

/-- The shape that an item has by its direct arguments. -/
inductive Item.Shaped : Item → AggregateShape → Prop where
  | column {relation name} : Shaped (.column relation name) .plain
  | empty {f} : Shaped (.call f []) (.malformed (f.text ++ "() has no argument"))
  | single {f relation name} : Shaped (.call f [.column relation name]) (.call f)
  | multiple {f arguments} : 2 ≤ arguments.length → (∀ x ∈ arguments, ¬ x.IsCall) →
      Shaped (.call f arguments) (.multiple f arguments.length)
  | nested {f before inner others after} : (∀ x ∈ before, ¬ x.IsCall) →
      Shaped (.call f (before ++ .call inner others :: after)) (.nested f inner)

/-- The column that is written first in an item, whatever calls stand around it. Where
a call without arguments comes first, the place of the column is held by no relation
and the empty name. -/
inductive Item.Leads : Item → Option String → String → Prop where
  | column {relation name} : Leads (.column relation name) relation name
  | empty {f} : Leads (.call f []) none ""
  | call {f first others relation name} : Leads first relation name →
      Leads (.call f (first :: others)) relation name

/-- An entry derives the column that is written first in it, in the shape that the
entry has. -/
inductive EntryOf : List Token → Attribute → Prop where
  | of {ts item relation name shape} : ItemOf ts item → item.Leads relation name →
      item.Shaped shape → EntryOf ts ⟨relation, name, shape⟩

/-! ## Conditions -/

/-- One side of a condition. A numeral derives the literal that it reads as,
together with its sign; a numeral that reads as no number derives nothing. -/
inductive OperandOf : List Token → Operand → Prop where
  | string {t content} : t.kind = .string content →
      OperandOf [t] (.literal (.varchar content))
  | numeral {t digits v} : t.kind = .numeral digits →
      Literal.ofNumeral? digits = some v → OperandOf [t] (.literal v)
  | negative {minus t digits v} : minus.kind = .mark .minus →
      t.kind = .numeral digits →
      Literal.ofNumeral? ("-" ++ digits) = some v →
      OperandOf [minus, t] (.literal v)
  | true {t} : t.kind = .keyword .TRUE → OperandOf [t] (.literal (.boolean true))
  | false {t} : t.kind = .keyword .FALSE →
      OperandOf [t] (.literal (.boolean false))
  | null {t} : t.kind = .keyword .NULL → OperandOf [t] (.literal .null)
  | column {ts relation name} : ReferenceOf ts (relation, name) →
      OperandOf ts (.column ⟨relation, name, .plain⟩)

/-- The marks for the comparisons. -/
inductive ComparisonMark : Mark → Comparison → Prop where
  | equal : ComparisonMark .equals .equal
  | notEqual : ComparisonMark .notEquals .notEqual
  | lessThan : ComparisonMark .lessThan .lessThan
  | lessOrEqual : ComparisonMark .lessThanOrEqual .lessOrEqual
  | greaterThan : ComparisonMark .greaterThan .greaterThan
  | greaterOrEqual : ComparisonMark .greaterThanOrEqual .greaterOrEqual

inductive ComparisonOf : List Token → Comparison → Prop where
  | mark {t m c} : t.kind = .mark m → ComparisonMark m c → ComparisonOf [t] c
  | like {t} : t.kind = .keyword .LIKE → ComparisonOf [t] .like
  | notLike {t u} : t.kind = .keyword .NOT → u.kind = .keyword .LIKE →
      ComparisonOf [t, u] .notLike

inductive ConditionOf : List Token → Condition → Prop where
  | of {ls os rs left comparison right} : OperandOf ls left →
      ComparisonOf os comparison → OperandOf rs right →
      ConditionOf (ls ++ (os ++ rs)) ⟨left, comparison, right⟩

/-! ## Column definitions -/

/-- The words for the types without a length. -/
inductive TypeWord : Keyword → ColumnType → Prop where
  | int : TypeWord .INT .integer
  | integer : TypeWord .INTEGER .integer
  | bigint : TypeWord .BIGINT .bigint
  | float : TypeWord .FLOAT .float
  | real : TypeWord .REAL .float
  | double : TypeWord .DOUBLE .double
  | text : TypeWord .TEXT .varchar
  | date : TypeWord .DATE .date
  | boolean : TypeWord .BOOLEAN .boolean

/-- A positive number in parentheses. -/
inductive LengthOf : List Token → Nat → Prop where
  | of {opening t close digits n} : opening.kind = .mark .leftParen →
      t.kind = .numeral digits → Number.length? digits = some n → 0 < n →
      close.kind = .mark .rightParen → LengthOf [opening, t, close] n

inductive TypeOf : List Token → ColumnType → Prop where
  | word {t k type} : t.kind = .keyword k → TypeWord k type → TypeOf [t] type
  | char {t} : t.kind = .keyword .CHAR → TypeOf [t] (.char 1)
  | charOf {t ts n} : t.kind = .keyword .CHAR → LengthOf ts n →
      TypeOf (t :: ts) (.char n)
  | varchar {t} : t.kind = .keyword .VARCHAR → TypeOf [t] .varchar
  | varcharOf {t ts n} : t.kind = .keyword .VARCHAR → LengthOf ts n →
      TypeOf (t :: ts) .varchar

/-- What may be said about NULL after a type. -/
inductive NullabilityOf : List Token → Bool → Prop where
  | unsaid : NullabilityOf [] true
  | null {t} : t.kind = .keyword .NULL → NullabilityOf [t] true
  | notNull {t u} : t.kind = .keyword .NOT → u.kind = .keyword .NULL →
      NullabilityOf [t, u] false

inductive ColumnOf : List Token → ColumnDefinition → Prop where
  | of {ns ts us name type nullable} : NameOf ns name → TypeOf ts type →
      NullabilityOf us nullable →
      ColumnOf (ns ++ (ts ++ us)) ⟨name, type, nullable⟩

/-! ## Statements -/

inductive WhereOf : List Token → List Condition → Prop where
  | none : WhereOf [] []
  | some {t ts conditions} : t.kind = .keyword .WHERE →
      Separated (One (.keyword .AND)) ConditionOf ts conditions →
      WhereOf (t :: ts) conditions

inductive SelectOf : List Token → Select → Prop where
  | of {select is fromWord ns ws attributes names conditions} :
      select.kind = .keyword .SELECT → Listed EntryOf is attributes →
      fromWord.kind = .keyword .FROM → Listed NameOf ns names →
      WhereOf ws conditions →
      SelectOf (select :: (is ++ fromWord :: (ns ++ ws))) ⟨names, attributes, conditions⟩

inductive CreateTableOf : List Token → TableDefinition → Prop where
  | of {create table ns opening cs close name columns} :
      create.kind = .keyword .CREATE → table.kind = .keyword .TABLE →
      NameOf ns name → opening.kind = .mark .leftParen →
      Listed ColumnOf cs columns → close.kind = .mark .rightParen →
      CreateTableOf (create :: table :: (ns ++ opening :: (cs ++ [close])))
        ⟨name, columns⟩

inductive DropTableOf : List Token → String → Prop where
  | of {drop table ns name} : drop.kind = .keyword .DROP →
      table.kind = .keyword .TABLE → NameOf ns name →
      DropTableOf (drop :: table :: ns) name

inductive StatementOf : List Token → Statement → Prop where
  | select {ts s} : SelectOf ts s → StatementOf ts (.select s)
  | createTable {ts d} : CreateTableOf ts d → StatementOf ts (.createTable d)
  | dropTable {ts name} : DropTableOf ts name → StatementOf ts (.dropTable name)

/-! ## Scripts -/

/-- Any number of semicolons. -/
def Semicolons (ts : List Token) : Prop := ∀ t ∈ ts, t.kind = .mark .semicolon

/-- One or more semicolons. -/
def Gap (ts : List Token) : Prop := ts ≠ [] ∧ Semicolons ts

/-- Statements with one or more semicolons between them and any number around
them, or no statement and any number of semicolons. -/
inductive ScriptOf : List Token → List Statement → Prop where
  | empty {ts} : Semicolons ts → ScriptOf ts []
  | statements {before ts after sts} : Semicolons before →
      Separated Gap StatementOf ts sts → Semicolons after →
      ScriptOf (before ++ (ts ++ after)) sts

end QueryBind.Sql
