import QueryBind.Sql.Keyword

/-!
# Tokens

The pieces that a statement is made of, each with its text and the place where it begins. Lines
and columns count from 1, and a column is one character wide.
-/

namespace QueryBind.Sql

/-- A place in a text. -/
structure Position where
  line : Nat
  column : Nat
  deriving DecidableEq, Repr

namespace Position

/-- Where a text begins. -/
def start : Position := ⟨1, 1⟩

/-- The place after a character: a line feed starts a new line. -/
def next (p : Position) (c : Char) : Position :=
  if c = '\n' then ⟨p.line + 1, 1⟩ else ⟨p.line, p.column + 1⟩

/-- The place after a text. -/
def after (p : Position) (cs : List Char) : Position := cs.foldl next p

/-- The place `n` columns further on in the same line. -/
def shift (p : Position) (n : Nat) : Position := ⟨p.line, p.column + n⟩

/-- A place as error texts name it. -/
def text (p : Position) : String := s!"line {p.line}, column {p.column}"

end Position

/-- Operators and punctuation. -/
inductive Mark where
  | minus | equals | notEquals | lessThan | greaterThan | lessThanOrEqual | greaterThanOrEqual
  | leftParen | rightParen | comma | dot | semicolon | star
  deriving DecidableEq, Repr

/-- The name of a mark in error texts. -/
def Mark.label : Mark → String
  | .minus => "Minus"
  | .equals => "Equals"
  | .notEquals => "NotEquals"
  | .lessThan => "LessThan"
  | .greaterThan => "GreaterThan"
  | .lessThanOrEqual => "LessThanOrEqual"
  | .greaterThanOrEqual => "GreaterThanOrEqual"
  | .leftParen => "LeftParen"
  | .rightParen => "RightParen"
  | .comma => "Comma"
  | .dot => "Dot"
  | .semicolon => "Semicolon"
  | .star => "Star"

/-- What a token stands for. A string and a name carry their content without quotes, a numeral
its digits as written; `finish` ends every list of tokens. -/
inductive TokenKind where
  | identifier (name : String)
  | string (content : String)
  | numeral (digits : String)
  | keyword (k : Keyword)
  | mark (m : Mark)
  | finish
  deriving DecidableEq, Repr

/-- A token with the text that error messages show for it. -/
structure Token where
  kind : TokenKind
  text : String
  pos : Position
  deriving DecidableEq, Repr

namespace Token

def isFinish (t : Token) : Bool := t.kind == .finish

def isMark (t : Token) (m : Mark) : Bool := t.kind == .mark m

def isKeyword (t : Token) (k : Keyword) : Bool := t.kind == .keyword k

end Token

end QueryBind.Sql
