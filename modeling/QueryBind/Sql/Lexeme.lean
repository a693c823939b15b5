import QueryBind.Sql.ParseError
import QueryBind.Text.Quoted

/-!
# Lexemes

The longest piece of a text that is one token. `Lexeme.first` takes it off the front; what it
covers is `Lexeme.written`, so a text is always the lexeme as written followed by the rest
(`eq_written_append_of_first`), and a lexeme is never empty (`length_lt_of_first`).
-/

namespace QueryBind.Sql

open QueryBind.Text

/-- A piece of text that is one token: a bare word, a numeral, a quoted string, a quoted name, or
a mark as it is spelled. -/
inductive Lexeme where
  | word (letters : List Char)
  | numeral (digits : List Char)
  | string (content : List Char)
  | name (content : List Char)
  | mark (m : Mark) (spelling : List Char)
  deriving DecidableEq, Repr

/-! ## Character classes -/

def isWordStart (c : Char) : Bool := c.isAlpha || c == '_'

def isWordChar (c : Char) : Bool := c.isAlphanum || c == '_'

/-- Marks of one character that begin no longer mark. -/
def singleMark? : Char → Option Mark
  | '(' => some .leftParen
  | ')' => some .rightParen
  | ',' => some .comma
  | '.' => some .dot
  | ';' => some .semicolon
  | '*' => some .star
  | '-' => some .minus
  | '=' => some .equals
  | _ => none

/-- Digits, then at most one point, then digits; and what follows them. -/
def splitNumeral (cs : List Char) : List Char × List Char :=
  match cs.dropWhile Char.isDigit with
  | '.' :: rest =>
    (cs.takeWhile Char.isDigit ++ '.' :: rest.takeWhile Char.isDigit, rest.dropWhile Char.isDigit)
  | rest => (cs.takeWhile Char.isDigit, rest)

/-! ## Taking a lexeme off a text -/

namespace Lexeme

/-- The characters that a lexeme covers. -/
def written : Lexeme → List Char
  | word letters => letters
  | numeral digits => digits
  | string content => writeQuoted '\x27' content
  | name content => writeQuoted '"' content
  | mark _ spelling => spelling

/-- The lexeme at the front of a text that begins with `c`, and the rest. -/
def first (c : Char) (cs : List Char) : Except LexicalFault (Lexeme × List Char) :=
  match singleMark? c with
  | some m => .ok (mark m [c], cs)
  | none =>
    if c = '\x27' then
      match quotedBody '\x27' cs with
      | some (content, rest) => .ok (string content, rest)
      | none => .error .unclosedString
    else if c = '"' then
      match quotedBody '"' cs with
      | some (content, rest) => .ok (name content, rest)
      | none => .error .unclosedName
    else if c.isDigit then
      .ok (numeral (c :: (splitNumeral cs).1), (splitNumeral cs).2)
    else if c = '!' then
      match cs with
      | '=' :: rest => .ok (mark .notEquals ['!', '='], rest)
      | _ => .error .loneBang
    else if c = '<' then
      match cs with
      | '=' :: rest => .ok (mark .lessThanOrEqual ['<', '='], rest)
      | '>' :: rest => .ok (mark .notEquals ['<', '>'], rest)
      | _ => .ok (mark .lessThan ['<'], cs)
    else if c = '>' then
      match cs with
      | '=' :: rest => .ok (mark .greaterThanOrEqual ['>', '='], rest)
      | _ => .ok (mark .greaterThan ['>'], cs)
    else if isWordStart c then
      .ok (word (c :: cs.takeWhile isWordChar), cs.dropWhile isWordChar)
    else .error (.strayCharacter c)

/-- What a lexeme stands for: a bare word may be a keyword, a quoted name never is one. -/
def kind : Lexeme → TokenKind
  | word letters =>
    match Keyword.ofWord? letters with
    | some k => .keyword k
    | none => .identifier (String.ofList letters)
  | numeral digits => .numeral (String.ofList digits)
  | string content => .string (String.ofList content)
  | name content => .identifier (String.ofList content)
  | mark m _ => .mark m

/-- The text of a lexeme's token: the content of what is quoted, all else as written. -/
def tokenText : Lexeme → String
  | word letters => String.ofList letters
  | numeral digits => String.ofList digits
  | string content => String.ofList content
  | name content => String.ofList content
  | mark _ spelling => String.ofList spelling

/-- The token of a lexeme that begins at a place. -/
def token (l : Lexeme) (pos : Position) : Token := ⟨l.kind, l.tokenText, pos⟩

/-- The place after a lexeme. A quoted name is taken to stand in one line, so a line feed inside
it is one column wide like any other character. -/
def past (l : Lexeme) (pos : Position) : Position :=
  match l with
  | name _ => pos.shift l.written.length
  | _ => pos.after l.written

/-! ## Nothing is lost -/

theorem splitNumeral_append (cs : List Char) :
    (splitNumeral cs).1 ++ (splitNumeral cs).2 = cs := by
  unfold splitNumeral
  split
  · next rest h =>
    simp only [List.append_assoc, List.cons_append, List.takeWhile_append_dropWhile]
    rw [← h, List.takeWhile_append_dropWhile]
  · exact List.takeWhile_append_dropWhile

/-- A text is its first lexeme as written, followed by the rest. -/
theorem eq_written_append_of_first {c : Char} {cs rest : List Char} {l : Lexeme}
    (h : first c cs = .ok (l, rest)) : c :: cs = l.written ++ rest := by
  unfold first at h
  split at h
  · cases h; rfl
  split at h
  · next hc =>
    split at h
    · next content rest' hbody =>
      cases h
      rw [eq_writeBody_of_quotedBody hbody, hc]
      rfl
    · cases h
  split at h
  · next hc =>
    split at h
    · next content rest' hbody =>
      cases h
      rw [eq_writeBody_of_quotedBody hbody, hc]
      rfl
    · cases h
  split at h
  · simp only [Except.ok.injEq, Prod.mk.injEq] at h
    obtain ⟨rfl, rfl⟩ := h
    simp [written, splitNumeral_append]
  split at h
  · next hc =>
    split at h <;> cases h
    simp [written, hc]
  split at h
  · next hc => split at h <;> cases h <;> simp [written, hc]
  split at h
  · next hc => split at h <;> cases h <;> simp [written, hc]
  split at h
  · cases h
    simp [written, List.takeWhile_append_dropWhile]
  · cases h

theorem length_lt_of_first {c : Char} {cs rest : List Char} {l : Lexeme}
    (h : first c cs = .ok (l, rest)) : rest.length < (c :: cs).length := by
  have hw : l.written ≠ [] := by
    intro hnil
    unfold first at h
    split at h
    · cases h; simp [written] at hnil
    split at h
    · split at h <;> cases h; simp [written, writeQuoted] at hnil
    split at h
    · split at h <;> cases h; simp [written, writeQuoted] at hnil
    split at h
    · cases h; simp [written] at hnil
    split at h
    · split at h <;> cases h; simp [written] at hnil
    split at h
    · split at h <;> cases h <;> simp [written] at hnil
    split at h
    · split at h <;> cases h <;> simp [written] at hnil
    split at h <;> cases h; simp [written] at hnil
  rw [eq_written_append_of_first h, List.length_append]
  have := List.length_pos_iff.2 hw
  omega

end Lexeme

end QueryBind.Sql
