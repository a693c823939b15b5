import QueryBind.Sql.Lexeme
import QueryBind.Text.Blank

/-!
# Scanning

A text as a list of tokens. From left to right, blank characters and comments are skipped, and
every other place begins the longest lexeme there. A comment runs from two minus signs to the
end of its line. The list ends with the one `finish` token, which stands after the last
character.
-/

namespace QueryBind.Sql

open QueryBind.Text

/-- Two minus signs begin a comment. -/
def startsComment : List Char → Bool
  | '-' :: '-' :: _ => true
  | _ => false

/-- The characters of a line that are left, without the line feed. -/
def restOfLine (cs : List Char) : List Char := cs.takeWhile (· != '\n')

/-- What follows the rest of a line, from the line feed on. -/
def afterLine (cs : List Char) : List Char := cs.dropWhile (· != '\n')

theorem afterLine_length_lt {cs : List Char} (h : startsComment cs = true) :
    (afterLine cs).length < cs.length := by
  unfold startsComment at h
  split at h
  · next rest =>
    have := (List.dropWhile_sublist (l := rest) (p := (· != '\n'))).length_le
    simp [afterLine]
    omega
  · cases h

/-- The tokens of a text that begins at a place. -/
def scan (pos : Position) (cs : List Char) : Except ParseError (List Token) :=
  match cs with
  | [] => .ok [⟨.finish, "", pos⟩]
  | c :: rest =>
    if isBlankChar c then scan (pos.next c) rest
    else if _h : startsComment (c :: rest) then
      scan (pos.after (restOfLine (c :: rest))) (afterLine (c :: rest))
    else
      match _h : Lexeme.first c rest with
      | .error fault => .error (.lexical fault pos)
      | .ok (lexeme, after) =>
        (scan (lexeme.past pos) after).map (lexeme.token pos :: ·)
termination_by cs.length
decreasing_by
  · simp
  · exact afterLine_length_lt ‹_›
  · exact Lexeme.length_lt_of_first ‹_›

/-- The tokens of a text. -/
def tokenize (text : String) : Except ParseError (List Token) :=
  scan Position.start text.toList

end QueryBind.Sql
