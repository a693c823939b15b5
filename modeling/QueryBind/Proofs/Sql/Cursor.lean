import QueryBind.Sql.Sentence

/-!
# Reading with a cursor

The readers of a sentence take tokens off the front of a list, and the list holds
nothing behind the end of the sentence. A machine has all tokens in a row and a
cursor among them: it looks at the token under the cursor, at times at the next
one, and moves the cursor by one. Nothing but the tokens themselves keeps it from
looking where there is none, from moving over the end, or from going on forever.

Here the grammar is read in that way. An index without a token and a move over the end
halt a reading, each in a way of its own. Its loops and the calls inside calls are given
a number of rounds; a reading that needs more gives nothing, and one that does not end
gives nothing for any number.
-/

namespace QueryBind.Sql.Cursor

/-- Why a reading stops before its end. -/
inductive Halt where
  /-- The tokens are not what a sentence has there. -/
  | refused (e : ParseError)
  /-- There is no token at an index. -/
  | outside
  /-- The cursor is moved while it stands on the end. -/
  | overrun
  deriving DecidableEq, Repr

/-- A reading from where the cursor stands. It moves the cursor, halts, or runs out of
rounds. -/
abbrev Walk := StateT Nat (ExceptT Halt Option)

/-- There are no more rounds. -/
def unended {α : Type} : Walk α := fun _ => ExceptT.mk none

section Walks

variable (tokens : List Token)

/-! ## Looking and moving -/

def tokenAt (i : Nat) : Walk Token :=
  match tokens[i]? with
  | some t => pure t
  | none => throw .outside

/-- The token under the cursor. Behind the last token the cursor is taken to stand on
the last. -/
def current : Walk Token := do
  tokenAt tokens (min (← get) (tokens.length - 1))

/-- The token next to the one under the cursor, or the last. -/
def upcoming : Walk Token := do
  let i ← get
  if i + 1 < tokens.length then tokenAt tokens (i + 1)
  else tokenAt tokens (tokens.length - 1)

def advance : Walk Unit := do
  if (← current tokens).isFinish then throw .overrun
  else modify (· + 1)

def refuse {α : Type} (expected : Expectation) : Walk α := do
  throw (.refused (.unexpected expected (← current tokens)))

/-- Moves over a token that passes a test, and tells whether it did. The token that is
passed is looked up without regard for the last one. -/
def tryToken (test : Token → Bool) : Walk Bool := do
  if test (← current tokens) then
    discard (tokenAt tokens (← get))
    advance tokens
    return true
  else return false

def tryMark (m : Mark) : Walk Bool := tryToken tokens (·.isMark m)

def tryKeyword (k : Keyword) : Walk Bool := tryToken tokens (·.isKeyword k)

def mark (m : Mark) : Walk Unit := do
  if ← tryMark tokens m then return ()
  else throw (.refused (.missingMark m (← current tokens).text))

def keyword (k : Keyword) : Walk Unit := do
  if ← tryKeyword tokens k then return ()
  else throw (.refused (.missingKeyword k (← current tokens).text))

def name : Walk String := do
  match (← current tokens).name? with
  | some name => do
    advance tokens
    return name
  | none => refuse tokens .identifier

def numeral : Walk String := do
  match (← current tokens).kind with
  | .numeral digits => do
    advance tokens
    return digits
  | _ => refuse tokens .numeral

/-- One or more of the same, as long as a separator follows. -/
def separated {α : Type} (one : Walk α) (separator : Walk Bool) : Nat → Walk (List α)
  | 0 => unended
  | rounds + 1 => do
    let a ← one
    if ← separator then
      let rest ← separated one separator rounds
      return a :: rest
    else return [a]

/-! ## Columns and calls -/

def part : Walk String := do
  if ← tryMark tokens .star then return wildcard
  else name tokens

def columnRef : Walk (Option String × String) := do
  let first ← part tokens
  if ← tryMark tokens .dot then
    let second ← part tokens
    return (some first, second)
  else return (none, first)

/-- The function of a call, if one begins under the cursor. -/
def callHead : Walk (Option AggregateFunction) := do
  match (← current tokens).kind with
  | .keyword k =>
    match k.aggregate? with
    | some f => do
      if (← upcoming tokens).isMark .leftParen then return some f
      else return none
    | none => return none
  | _ => return none

/-- A call whose head is known: its keyword, and what stands in parentheses. -/
def call (items : Walk (List Item)) (f : AggregateFunction) : Walk Item := do
  advance tokens
  mark tokens .leftParen
  let arguments ← if (← current tokens).isMark .rightParen then pure [] else items
  mark tokens .rightParen
  return .call f arguments

/-- An item, when it is known how the items in a call are read. -/
def item (items : Walk (List Item)) : Walk Item := do
  match ← callHead tokens with
  | some f => call tokens items f
  | none => do
    let (relation, name) ← columnRef tokens
    return .column relation name

def items : Nat → Walk (List Item)
  | 0 => unended
  | rounds + 1 => do
    let a ← item tokens (items rounds)
    if ← tryMark tokens .comma then
      let rest ← items rounds
      return a :: rest
    else return [a]

/-! ## Conditions -/

def literal (text : String) : Walk Literal :=
  match Literal.ofNumeral? text with
  | some v => pure v
  | none => throw (.refused (.badNumeral text))

def operand : Walk Operand := do
  match (← current tokens).kind with
  | .string content => do
    advance tokens
    return .literal (.varchar content)
  | .numeral digits => do
    let v ← literal digits
    advance tokens
    return .literal v
  | .keyword .TRUE => do
    advance tokens
    return .literal (.boolean true)
  | .keyword .FALSE => do
    advance tokens
    return .literal (.boolean false)
  | .keyword .NULL => do
    advance tokens
    return .literal .null
  | .mark .minus => do
    advance tokens
    let digits ← numeral tokens
    let v ← literal ("-" ++ digits)
    return .literal v
  | _ => do
    let (relation, name) ← columnRef tokens
    return .column ⟨relation, name, .plain⟩

/-- The comparison that a token alone stands for. -/
def comparison? : TokenKind → Option Comparison
  | .mark .equals => some .equal
  | .mark .notEquals => some .notEqual
  | .mark .lessThan => some .lessThan
  | .mark .lessThanOrEqual => some .lessOrEqual
  | .mark .greaterThan => some .greaterThan
  | .mark .greaterThanOrEqual => some .greaterOrEqual
  | .keyword .LIKE => some .like
  | _ => none

def comparison : Walk Comparison := do
  let t ← current tokens
  match comparison? t.kind with
  | some c => do
    advance tokens
    return c
  | none =>
    if t.isKeyword .NOT then do
      advance tokens
      keyword tokens .LIKE
      return .notLike
    else refuse tokens .comparison

def condition : Walk Condition := do
  let left ← operand tokens
  let comparison ← comparison tokens
  let right ← operand tokens
  return ⟨left, comparison, right⟩

/-! ## Types and column definitions -/

def typeLength : Walk (Option Nat) := do
  if ← tryMark tokens .leftParen then
    let digits ← numeral tokens
    match Number.length? digits with
    | none => throw (.refused (.badLength digits))
    | some 0 => throw (.refused .zeroLength)
    | some length => do
      mark tokens .rightParen
      return some length
  else return none

def dataType : Walk ColumnType := do
  match (← current tokens).kind with
  | .keyword k =>
    match k.plainType?, k.characterType? with
    | some type, _ => do
      advance tokens
      return type
    | none, some type => do
      advance tokens
      let length ← typeLength tokens
      return type length
    | none, none => refuse tokens .dataType
  | _ => refuse tokens .dataType

def column : Walk ColumnDefinition := do
  let name ← name tokens
  let type ← dataType tokens
  if ← tryKeyword tokens .NOT then
    keyword tokens .NULL
    return ⟨name, type, false⟩
  else
    if ← tryKeyword tokens .NULL then return ⟨name, type, true⟩
    else return ⟨name, type, true⟩

/-! ## Statements -/

section Rounds

variable (rounds : Nat)

def select : Walk Select := do
  keyword tokens .SELECT
  let items ← items tokens rounds
  keyword tokens .FROM
  let relations ← separated (name tokens) (tryMark tokens .comma) rounds
  let attributes := items.map Item.toAttribute
  if ← tryKeyword tokens .WHERE then
    let conditions ← separated (condition tokens) (tryKeyword tokens .AND) rounds
    return ⟨relations, attributes, conditions⟩
  else return ⟨relations, attributes, []⟩

def createTable : Walk TableDefinition := do
  keyword tokens .CREATE
  keyword tokens .TABLE
  let name ← name tokens
  mark tokens .leftParen
  let columns ← separated (column tokens) (tryMark tokens .comma) rounds
  mark tokens .rightParen
  return ⟨name, columns⟩

def dropTable : Walk String := do
  keyword tokens .DROP
  keyword tokens .TABLE
  name tokens

def statement : Walk Statement := do
  match (← current tokens).kind with
  | .keyword .SELECT => do
    let s ← select tokens rounds
    return .select s
  | .keyword .CREATE => do
    let definition ← createTable tokens rounds
    return .createTable definition
  | .keyword .DROP => do
    let name ← dropTable tokens
    return .dropTable name
  | _ => refuse tokens .statement

end Rounds

def semicolons : Nat → Walk Unit
  | 0 => unended
  | rounds + 1 => do
    if ← tryMark tokens .semicolon then semicolons rounds
    else return ()

def onlyStatement (rounds : Nat) : Walk Statement := do
  let st ← statement tokens rounds
  semicolons tokens rounds
  if (← current tokens).isFinish then return st
  else refuse tokens .endOfStatement

/-- Statements up to the end. A round passes a semicolon or reads a statement. -/
def statementsOf (one : Walk Statement) : Nat → Walk (List Statement)
  | 0 => unended
  | rounds + 1 => do
    if (← current tokens).isFinish then return []
    else if ← tryMark tokens .semicolon then statementsOf one rounds
    else
      let st ← one
      if (← current tokens).isFinish then
        let rest ← statementsOf one rounds
        return st :: rest
      else
        mark tokens .semicolon
        let rest ← statementsOf one rounds
        return st :: rest

def statements (rounds : Nat) : Walk (List Statement) :=
  statementsOf tokens (statement tokens rounds) rounds

end Walks

/-! ## Tokens with an end -/

/-- The tokens, and an end behind them if they do not have one there. -/
def ended (tokens : List Token) : List Token :=
  if tokens.getLast?.any (·.isFinish) then tokens else tokens ++ [finishAfter tokens.getLast?]

/-- With any number of rounds beyond the number of tokens, a reading from the first
token ends, and ends with this. -/
def ComesTo {α : Type} (walk : List Token → Nat → Walk α) (tokens : List Token)
    (result : Except Halt α) : Prop :=
  ∀ rounds, tokens.length < rounds → (walk (ended tokens) rounds).run' 0 = some result

end QueryBind.Sql.Cursor
