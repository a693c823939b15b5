import QueryBind.Sql.Scan
import QueryBind.Sql.Statement
import QueryBind.Taken

/-!
# Sentences

Statements read from tokens. Only the tokens before the first `finish` token count; that token,
or one placed after the last token if there is none, is what a reader has found once the others
are used up. The grammar:

* `SELECT item {, item} FROM name {, name} [WHERE condition {AND condition}]`,
  `CREATE TABLE name (column {, column})` and `DROP TABLE name`;
* an item is `AGGREGATE ( [item {, item}] )` or a column reference, which is a name or a star,
  alone or after another and a dot;
* a condition is two operands around a comparison; an operand is a string, a numeral with an
  optional minus, TRUE, FALSE, NULL or a column reference;
* a column is a name, a type and optionally NULL or NOT NULL;
* a name is an identifier or a keyword that is not reserved.

Each reader decides by the next token, and the word AGGREGATE by one more, and never goes back.
-/

namespace QueryBind.Sql

/-! ## The tokens of a sentence -/

/-- Tokens, and the token that stands at their end. -/
structure Sentence where
  tokens : List Token
  stop : Token

/-- The end of a list of tokens that does not name it: right after the last token, or where a
text begins. -/
def finishAfter : Option Token → Token
  | some t => ⟨.finish, "", t.pos.shift t.text.length⟩
  | none => ⟨.finish, "", Position.start⟩

/-- The tokens before the first `finish` token, and that token. -/
def Sentence.ofTokens (ts : List Token) : Sentence :=
  { tokens := ts.takeWhile (!·.isFinish)
    stop := (ts.find? (·.isFinish)).getD (finishAfter ts.getLast?) }

/-! ## Single tokens -/

/-- Reads an `α` off the front of a list of tokens, or tells what is wrong there. -/
abbrev Reader (α : Type) := (ts : List Token) → Except ParseError (Taken Token α ts)

def dropMark? (m : Mark) (ts : List Token) :
    Option { rest : List Token // rest.length < ts.length } :=
  dropHead? (·.isMark m) ts

def dropKeyword? (k : Keyword) (ts : List Token) :
    Option { rest : List Token // rest.length < ts.length } :=
  dropHead? (·.isKeyword k) ts

section Readers

variable (stop : Token)

/-- The token that a reader finds. -/
def found (ts : List Token) : Token := ts.headD stop

def unexpected (expected : Expectation) (ts : List Token) : ParseError :=
  .unexpected expected (found stop ts)

def readMark (m : Mark) : Reader Unit := fun ts =>
  match dropMark? m ts with
  | some ⟨rest, h⟩ => .ok ⟨(), rest, h⟩
  | none => .error (.missingMark m (found stop ts).text)

def readKeyword (k : Keyword) : Reader Unit := fun ts =>
  match dropKeyword? k ts with
  | some ⟨rest, h⟩ => .ok ⟨(), rest, h⟩
  | none => .error (.missingKeyword k (found stop ts).text)

/-- The name that a token stands for, if it stands for one. -/
def Token.name? (t : Token) : Option String :=
  match t.kind with
  | .identifier name => some name
  | .keyword k => if k.isReserved then none else some t.text
  | _ => none

def readName : Reader String
  | [] => .error (unexpected stop .identifier [])
  | t :: rest =>
    match t.name? with
    | some name => .ok ⟨name, rest, Nat.lt_succ_self _⟩
    | none => .error (unexpected stop .identifier (t :: rest))

def readNumeral : Reader String
  | [] => .error (unexpected stop .numeral [])
  | t :: rest =>
    match t.kind with
    | .numeral digits => .ok ⟨digits, rest, Nat.lt_succ_self _⟩
    | _ => .error (unexpected stop .numeral (t :: rest))

/-- One or more of the same, with a separator between them. -/
def readSeparated {α : Type} (one : Reader α)
    (separator? : (ts : List Token) → Option { rest : List Token // rest.length < ts.length })
    (ts : List Token) : Except ParseError (Taken Token (List α) ts) := do
  let ⟨a, rest, h⟩ ← one ts
  match separator? rest with
  | none => return ⟨[a], rest, h⟩
  | some ⟨rest', h'⟩ =>
    let ⟨as, rest'', h''⟩ ← readSeparated one separator? rest'
    return ⟨a :: as, rest'', by omega⟩
termination_by ts.length

/-! ## Columns and calls -/

/-- A star or a name. -/
def readPart : Reader String := fun ts =>
  match dropMark? .star ts with
  | some ⟨rest, h⟩ => .ok ⟨wildcard, rest, h⟩
  | none => readName stop ts

/-- A part alone, or two with a dot between them: the relation, if named, and the column. -/
def readColumnRef : Reader (Option String × String) := fun ts => do
  let ⟨first, rest, h⟩ ← readPart stop ts
  match dropMark? .dot rest with
  | none => return ⟨(none, first), rest, h⟩
  | some ⟨rest', h'⟩ =>
    let ⟨second, rest'', h''⟩ ← readPart stop rest'
    return ⟨(some first, second), rest'', by omega⟩

/-- The aggregate function that a keyword names. -/
def Keyword.aggregate? : Keyword → Option AggregateFunction
  | .COUNT => some .count
  | .SUM => some .sum
  | .AVG => some .avg
  | .MIN => some .min
  | .MAX => some .max
  | _ => none

/-- The function of a call, if a call begins here: its keyword and the opening parenthesis. -/
def callHead? : (ts : List Token) → Option (Taken Token AggregateFunction ts)
  | t :: u :: rest =>
    match t.kind with
    | .keyword k =>
      if u.isMark .leftParen then
        k.aggregate?.map fun f => ⟨f, rest, Nat.lt_succ_of_lt (Nat.lt_succ_self _)⟩
      else none
    | _ => none
  | _ => none

mutual

/-- An entry of a SELECT list. -/
def readItem (ts : List Token) : Except ParseError (Taken Token Item ts) :=
  match callHead? ts with
  | some ⟨f, inside, h⟩ =>
    match dropMark? .rightParen inside with
    | some ⟨rest, h'⟩ => .ok ⟨.call f [], rest, by omega⟩
    | none => do
      let ⟨arguments, rest, h'⟩ ← readItems inside
      let ⟨_, rest', h''⟩ ← readMark stop .rightParen rest
      return ⟨.call f arguments, rest', by omega⟩
  | none => do
    let ⟨(relation, name), rest, h⟩ ← readColumnRef stop ts
    return ⟨.column relation name, rest, h⟩
termination_by (ts.length, 0)

/-- One or more entries with commas between them. -/
def readItems (ts : List Token) : Except ParseError (Taken Token (List Item) ts) := do
  let ⟨item, rest, h⟩ ← readItem ts
  match dropMark? .comma rest with
  | none => return ⟨[item], rest, h⟩
  | some ⟨rest', h'⟩ =>
    let ⟨items, rest'', h''⟩ ← readItems rest'
    return ⟨item :: items, rest'', by omega⟩
termination_by (ts.length, 1)

end

/-! ## Conditions -/

/-- The literal of a numeral. -/
def numeralLiteral (text : String) : Except ParseError Literal :=
  match Literal.ofNumeral? text with
  | some v => .ok v
  | none => .error (.badNumeral text)

def readOperand : Reader Operand
  | [] => .error (unexpected stop .identifier [])
  | t :: rest =>
    match t.kind with
    | .string content => .ok ⟨.literal (.varchar content), rest, Nat.lt_succ_self _⟩
    | .numeral digits => do
      return ⟨.literal (← numeralLiteral digits), rest, Nat.lt_succ_self _⟩
    | .keyword .TRUE => .ok ⟨.literal (.boolean true), rest, Nat.lt_succ_self _⟩
    | .keyword .FALSE => .ok ⟨.literal (.boolean false), rest, Nat.lt_succ_self _⟩
    | .keyword .NULL => .ok ⟨.literal .null, rest, Nat.lt_succ_self _⟩
    | .mark .minus => do
      let ⟨digits, rest', h⟩ ← readNumeral stop rest
      return ⟨.literal (← numeralLiteral ("-" ++ digits)), rest', by grind⟩
    | _ => do
      let ⟨(relation, name), rest', h⟩ ← readColumnRef stop (t :: rest)
      return ⟨.column ⟨relation, name, .plain⟩, rest', h⟩

def readComparison : Reader Comparison
  | [] => .error (unexpected stop .comparison [])
  | t :: rest =>
    match t.kind with
    | .mark .equals => .ok ⟨.equal, rest, Nat.lt_succ_self _⟩
    | .mark .notEquals => .ok ⟨.notEqual, rest, Nat.lt_succ_self _⟩
    | .mark .lessThan => .ok ⟨.lessThan, rest, Nat.lt_succ_self _⟩
    | .mark .lessThanOrEqual => .ok ⟨.lessOrEqual, rest, Nat.lt_succ_self _⟩
    | .mark .greaterThan => .ok ⟨.greaterThan, rest, Nat.lt_succ_self _⟩
    | .mark .greaterThanOrEqual => .ok ⟨.greaterOrEqual, rest, Nat.lt_succ_self _⟩
    | .keyword .LIKE => .ok ⟨.like, rest, Nat.lt_succ_self _⟩
    | .keyword .NOT => do
      let ⟨_, rest', h⟩ ← readKeyword stop .LIKE rest
      return ⟨.notLike, rest', by grind⟩
    | _ => .error (unexpected stop .comparison (t :: rest))

def readCondition : Reader Condition := fun ts => do
  let ⟨left, rest, h⟩ ← readOperand stop ts
  let ⟨comparison, rest', h'⟩ ← readComparison stop rest
  let ⟨right, rest'', h''⟩ ← readOperand stop rest'
  return ⟨⟨left, comparison, right⟩, rest'', by omega⟩

/-! ## Types and column definitions -/

/-- The length in parentheses after a character type, if there is one. -/
def readLength? (ts : List Token) : Except ParseError (Option (Taken Token Nat ts)) :=
  match dropMark? .leftParen ts with
  | none => .ok none
  | some ⟨rest, h⟩ => do
    let ⟨digits, rest', h'⟩ ← readNumeral stop rest
    match Number.length? digits with
    | none => .error (.badLength digits)
    | some 0 => .error .zeroLength
    | some length =>
      let ⟨_, rest'', h''⟩ ← readMark stop .rightParen rest'
      return some ⟨length, rest'', by omega⟩

/-- The type that a keyword names, if it takes no length. -/
def Keyword.plainType? : Keyword → Option ColumnType
  | .INT | .INTEGER => some .integer
  | .BIGINT => some .bigint
  | .FLOAT | .REAL => some .float
  | .DOUBLE => some .double
  | .TEXT => some .varchar
  | .DATE => some .date
  | .BOOLEAN => some .boolean
  | _ => none

/-- The type of a character keyword with a length: CHAR has one character unless told otherwise,
VARCHAR takes any number whatever it is told. -/
def Keyword.characterType? : Keyword → Option (Option Nat → ColumnType)
  | .CHAR => some fun length => .char (length.getD 1)
  | .VARCHAR => some fun _ => .varchar
  | _ => none

def readType : Reader ColumnType
  | [] => .error (unexpected stop .dataType [])
  | t :: rest =>
    match t.kind with
    | .keyword k =>
      match k.plainType?, k.characterType? with
      | some type, _ => .ok ⟨type, rest, Nat.lt_succ_self _⟩
      | none, some type => do
        match ← readLength? stop rest with
        | none => return ⟨type none, rest, Nat.lt_succ_self _⟩
        | some ⟨length, rest', h⟩ => return ⟨type (some length), rest', by grind⟩
      | none, none => .error (unexpected stop .dataType (t :: rest))
    | _ => .error (unexpected stop .dataType (t :: rest))

def readColumn : Reader ColumnDefinition := fun ts => do
  let ⟨name, afterName, h⟩ ← readName stop ts
  let ⟨type, afterType, h'⟩ ← readType stop afterName
  match dropKeyword? .NOT afterType with
  | some ⟨afterNot, h''⟩ =>
    let ⟨_, rest, h'''⟩ ← readKeyword stop .NULL afterNot
    return ⟨⟨name, type, false⟩, rest, by omega⟩
  | none =>
    match dropKeyword? .NULL afterType with
    | some ⟨rest, h''⟩ => return ⟨⟨name, type, true⟩, rest, by omega⟩
    | none => return ⟨⟨name, type, true⟩, afterType, by omega⟩

/-! ## Statements -/

def readSelect : Reader Select := fun ts => do
  let ⟨_, r₁, h₁⟩ ← readKeyword stop .SELECT ts
  let ⟨items, r₂, h₂⟩ ← readItems stop r₁
  let ⟨_, r₃, h₃⟩ ← readKeyword stop .FROM r₂
  let ⟨relations, r₄, h₄⟩ ← readSeparated (readName stop) (dropMark? .comma) r₃
  let attributes := items.map Item.toAttribute
  match dropKeyword? .WHERE r₄ with
  | none => return ⟨⟨relations, attributes, []⟩, r₄, by omega⟩
  | some ⟨r₅, h₅⟩ =>
    let ⟨conditions, r₆, h₆⟩ ← readSeparated (readCondition stop) (dropKeyword? .AND) r₅
    return ⟨⟨relations, attributes, conditions⟩, r₆, by omega⟩

def readCreateTable : Reader TableDefinition := fun ts => do
  let ⟨_, r₁, h₁⟩ ← readKeyword stop .CREATE ts
  let ⟨_, r₂, h₂⟩ ← readKeyword stop .TABLE r₁
  let ⟨name, r₃, h₃⟩ ← readName stop r₂
  let ⟨_, r₄, h₄⟩ ← readMark stop .leftParen r₃
  let ⟨columns, r₅, h₅⟩ ← readSeparated (readColumn stop) (dropMark? .comma) r₄
  let ⟨_, r₆, h₆⟩ ← readMark stop .rightParen r₅
  return ⟨⟨name, columns⟩, r₆, by omega⟩

def readDropTable : Reader String := fun ts => do
  let ⟨_, r₁, h₁⟩ ← readKeyword stop .DROP ts
  let ⟨_, r₂, h₂⟩ ← readKeyword stop .TABLE r₁
  let ⟨name, r₃, h₃⟩ ← readName stop r₂
  return ⟨name, r₃, by omega⟩

def readStatement : Reader Statement := fun ts =>
  match (found stop ts).kind with
  | .keyword .SELECT => do
    let ⟨s, rest, h⟩ ← readSelect stop ts
    return ⟨.select s, rest, h⟩
  | .keyword .CREATE => do
    let ⟨definition, rest, h⟩ ← readCreateTable stop ts
    return ⟨.createTable definition, rest, h⟩
  | .keyword .DROP => do
    let ⟨name, rest, h⟩ ← readDropTable stop ts
    return ⟨.dropTable name, rest, h⟩
  | _ => .error (unexpected stop .statement ts)

/-- Statements with semicolons between them, and any number of semicolons besides. -/
def readStatements (ts : List Token) : Except ParseError (List Statement) :=
  match dropMark? .semicolon ts with
  | some ⟨rest, _⟩ => readStatements rest
  | none =>
    if ts.isEmpty then .ok []
    else do
      let ⟨s, rest, _⟩ ← readStatement stop ts
      if rest.isEmpty then return [s]
      let ⟨_, rest', _⟩ ← readMark stop .semicolon rest
      return s :: (← readStatements rest')
termination_by ts.length

end Readers

/-! ## Whole sentences -/

/-- The one statement of a sentence, which semicolons may follow. -/
def Sentence.statement (s : Sentence) : Except ParseError Statement := do
  let ⟨statement, rest, _⟩ ← readStatement s.stop s.tokens
  match rest.dropWhile (·.isMark .semicolon) with
  | [] => return statement
  | t :: _ => .error (.unexpected .endOfStatement t)

/-- All statements of a sentence. -/
def Sentence.statements (s : Sentence) : Except ParseError (List Statement) :=
  readStatements s.stop s.tokens

/-- The one statement that a text is. -/
def Statement.ofText (text : String) : Except ParseError Statement := do
  (Sentence.ofTokens (← tokenize text)).statement

/-- The statements of a script. -/
def Statement.ofScript (text : String) : Except ParseError (List Statement) := do
  (Sentence.ofTokens (← tokenize text)).statements

end QueryBind.Sql
