import QueryBind.Sql.Token

/-!
# Parse errors

Why a text is no statement: it does not divide into tokens, or its tokens do not make a sentence.
-/

namespace QueryBind.Sql

/-- Why no token begins at a place. -/
inductive LexicalFault where
  | unclosedString
  | unclosedName
  | loneBang
  | strayCharacter (c : Char)
  deriving DecidableEq, Repr

/-- What a sentence goes on with at a place. -/
inductive Expectation where
  | statement
  | endOfStatement
  | comparison
  | dataType
  | identifier
  | numeral
  deriving DecidableEq, Repr

def Expectation.text : Expectation → String
  | .statement => "SELECT, CREATE TABLE or DROP TABLE"
  | .endOfStatement => "end of statement"
  | .comparison => "comparison operator"
  | .dataType => "data type"
  | .identifier => "identifier"
  | .numeral => "numeric literal"

inductive ParseError where
  | lexical (fault : LexicalFault) (pos : Position)
  | unexpected (expected : Expectation) (found : Token)
  | missingMark (m : Mark) (found : String)
  | missingKeyword (k : Keyword) (found : String)
  | badNumeral (text : String)
  | badLength (text : String)
  | zeroLength
  deriving DecidableEq, Repr

/-- The end of the input goes by that name, any other token by its text. -/
def Token.described (t : Token) : String :=
  if t.isFinish then "end of input" else "'" ++ t.text ++ "'"

def ParseError.message : ParseError → String
  | .lexical .unclosedString pos => "Unterminated string literal starting at " ++ pos.text
  | .lexical .unclosedName pos => "Unterminated quoted identifier starting at " ++ pos.text
  | .lexical .loneBang pos => "Unexpected '!' at " ++ pos.text
  | .lexical (.strayCharacter c) pos =>
    "Unexpected character '" ++ String.singleton c ++ "' at " ++ pos.text
  | .unexpected expected found =>
    "Expected " ++ expected.text ++ ", found " ++ found.described ++ " at " ++ found.pos.text
  | .missingMark m found => "Expected token '" ++ m.label ++ "', found '" ++ found ++ "'"
  | .missingKeyword k found =>
    "Expected keyword '" ++ k.spelling ++ "', found '" ++ found ++ "'"
  | .badNumeral text => "Invalid numeric literal: " ++ text
  | .badLength text => "Invalid type length: " ++ text
  | .zeroLength => "Character type length must be positive"

end QueryBind.Sql
