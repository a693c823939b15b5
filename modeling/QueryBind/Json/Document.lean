import QueryBind.Json.Value
import QueryBind.Taken

/-!
# JSON documents

The value that a text writes. A text is divided into JSON tokens first, with nothing but spaces,
tabs, carriage returns and line feeds between them, and a value is then read off the tokens. A
document is one value and nothing else. Strings hold no bare control character; their escapes
may name half a surrogate pair, which makes the value that holds them `garbled` unless the other
half follows.
-/

namespace QueryBind.Json

/-! ## Tokens -/

/-- A string token has no text if it holds half a surrogate pair. -/
inductive Token where
  | openBrace
  | closeBrace
  | openBracket
  | closeBracket
  | colon
  | comma
  | null
  | boolean (b : Bool)
  | number (numeral : String)
  | string (text : Option String)
  deriving DecidableEq

def isSpace (c : Char) : Bool := c == ' ' || c == '\t' || c == '\r' || c == '\n'

/-- Digits off the front, at least one. -/
def someDigits? (cs : List Char) : Option (List Char × List Char) :=
  let ds := cs.takeWhile Char.isDigit
  if ds.isEmpty then none else some (ds, cs.dropWhile Char.isDigit)

/-- The whole part of a number: a zero, or digits that begin with another one. -/
def wholePart? : List Char → Option (List Char × List Char)
  | '0' :: rest => some (['0'], rest)
  | cs => someDigits? cs

/-- The fraction of a number, if a point follows. -/
def fraction? : List Char → Option (List Char × List Char)
  | '.' :: rest => (someDigits? rest).map fun (ds, after) => ('.' :: ds, after)
  | cs => some ([], cs)

/-- The power of ten of a number, if an E follows. -/
def power? : List Char → Option (List Char × List Char)
  | e :: rest =>
    if e = 'e' ∨ e = 'E' then
      let (sign, unsigned) :=
        match rest with
        | '+' :: ds => (['+'], ds)
        | '-' :: ds => (['-'], ds)
        | ds => ([], ds)
      (someDigits? unsigned).map fun (ds, after) => (e :: sign ++ ds, after)
    else some ([], e :: rest)
  | [] => some ([], [])

/-- A number off the front. -/
def number? (cs : List Char) : Option (List Char × List Char) := do
  let (sign, unsigned) :=
    match cs with
    | '-' :: rest => (['-'], rest)
    | rest => ([], rest)
  let (whole, afterWhole) ← wholePart? unsigned
  let (fraction, afterFraction) ← fraction? afterWhole
  let (power, rest) ← power? afterFraction
  return (sign ++ whole ++ fraction ++ power, rest)

/-- A piece of a string: a character, or a UTF-16 unit named by an escape. -/
inductive Piece where
  | char (c : Char)
  | unit (n : Nat)

def hexValue? (c : Char) : Option Nat :=
  if c.isDigit then some (c.toNat - '0'.toNat)
  else if 'a' ≤ c ∧ c ≤ 'f' then some (c.toNat - 'a'.toNat + 10)
  else if 'A' ≤ c ∧ c ≤ 'F' then some (c.toNat - 'A'.toNat + 10)
  else none

/-- The character that a letter after a backslash stands for. -/
def escaped? : Char → Option Char
  | '"' => some '"'
  | '\\' => some '\\'
  | '/' => some '/'
  | 'b' => some '\x08'
  | 'f' => some '\x0c'
  | 'n' => some '\n'
  | 'r' => some '\r'
  | 't' => some '\t'
  | _ => none

/-- The pieces of a string whose opening quote has been taken, and what follows it. -/
def pieces? : List Char → Option (List Piece × List Char)
  | [] => none
  | '"' :: rest => some ([], rest)
  | '\\' :: 'u' :: a :: b :: c :: d :: rest => do
    let n := 4096 * (← hexValue? a) + 256 * (← hexValue? b) + 16 * (← hexValue? c) + (← hexValue? d)
    let (ps, after) ← pieces? rest
    return (.unit n :: ps, after)
  | '\\' :: e :: rest => do
    let c ← escaped? e
    let (ps, after) ← pieces? rest
    return (.char c :: ps, after)
  | c :: rest =>
    if c.toNat < 0x20 then none
    else do
      let (ps, after) ← pieces? rest
      return (.char c :: ps, after)

/-- The text of pieces. Two units that are the halves of a surrogate pair make one character;
half a pair makes none. -/
def joinPieces? : List Piece → Option (List Char)
  | [] => some []
  | .char c :: ps => (joinPieces? ps).map (c :: ·)
  | .unit n :: .unit m :: ps =>
    if 0xD800 ≤ n ∧ n < 0xDC00 then
      if 0xDC00 ≤ m ∧ m < 0xE000 then
        (joinPieces? ps).map (Char.ofNat (0x10000 + 0x400 * (n - 0xD800) + (m - 0xDC00)) :: ·)
      else none
    else if 0xDC00 ≤ n ∧ n < 0xE000 then none
    else (joinPieces? (.unit m :: ps)).map (Char.ofNat n :: ·)
  | .unit n :: ps =>
    if 0xD800 ≤ n ∧ n < 0xE000 then none
    else (joinPieces? ps).map (Char.ofNat n :: ·)

/-- The token at the front of a text that begins with no space, and the rest. -/
def token? : List Char → Option (Token × List Char)
  | '\x7b' :: rest => some (.openBrace, rest)
  | '\x7d' :: rest => some (.closeBrace, rest)
  | '[' :: rest => some (.openBracket, rest)
  | ']' :: rest => some (.closeBracket, rest)
  | ':' :: rest => some (.colon, rest)
  | ',' :: rest => some (.comma, rest)
  | 'n' :: 'u' :: 'l' :: 'l' :: rest => some (.null, rest)
  | 't' :: 'r' :: 'u' :: 'e' :: rest => some (.boolean true, rest)
  | 'f' :: 'a' :: 'l' :: 's' :: 'e' :: rest => some (.boolean false, rest)
  | '"' :: rest =>
    (pieces? rest).map fun (ps, after) => (.string ((joinPieces? ps).map String.ofList), after)
  | cs => (number? cs).map fun (numeral, after) => (.number (String.ofList numeral), after)

/-! ### Every token is some of the text -/

theorem length_lt_of_someDigits? {cs ds rest : List Char} (h : someDigits? cs = some (ds, rest)) :
    rest.length < cs.length := by
  have hsplit : (cs.takeWhile Char.isDigit ++ cs.dropWhile Char.isDigit).length = cs.length := by
    rw [List.takeWhile_append_dropWhile]
  simp only [someDigits?] at h
  split at h
  · cases h
  · next hne =>
    cases h
    rw [List.isEmpty_iff, ← List.length_eq_zero_iff] at hne
    rw [List.length_append] at hsplit
    omega

theorem length_lt_of_wholePart? {cs ds rest : List Char} (h : wholePart? cs = some (ds, rest)) :
    rest.length < cs.length := by
  unfold wholePart? at h
  split at h
  · cases h
    simp
  · exact length_lt_of_someDigits? h

theorem length_le_of_fraction? {cs ds rest : List Char} (h : fraction? cs = some (ds, rest)) :
    rest.length ≤ cs.length := by
  unfold fraction? at h
  split at h
  · obtain ⟨⟨_, _⟩, hdigits, heq⟩ := Option.map_eq_some_iff.1 h
    cases heq
    have := length_lt_of_someDigits? hdigits
    simp
    omega
  · cases h
    exact Nat.le_refl _

theorem length_le_of_power? {cs ds rest : List Char} (h : power? cs = some (ds, rest)) :
    rest.length ≤ cs.length := by
  unfold power? at h
  split at h
  · split at h
    · obtain ⟨⟨_, _⟩, hdigits, heq⟩ := Option.map_eq_some_iff.1 h
      cases heq
      have := length_lt_of_someDigits? hdigits
      split at this <;> simp at this ⊢ <;> omega
    · cases h
      exact Nat.le_refl _
  · cases h
    exact Nat.le_refl _

theorem length_lt_of_number? {cs ds rest : List Char} (h : number? cs = some (ds, rest)) :
    rest.length < cs.length := by
  simp only [number?, bind, Option.bind_eq_some_iff, pure, Option.some.injEq,
    Prod.mk.injEq, Prod.exists] at h
  obtain ⟨_, _, hwhole, _, _, hfraction, _, _, hpower, _, rfl⟩ := h
  have := length_lt_of_wholePart? hwhole
  have := length_le_of_fraction? hfraction
  have := length_le_of_power? hpower
  split at * <;> simp at * <;> omega

theorem length_lt_of_pieces? {cs rest : List Char} {ps : List Piece}
    (h : pieces? cs = some (ps, rest)) : rest.length < cs.length := by
  fun_induction pieces? cs generalizing ps with
  | case1 => cases h
  | case2 => cases h; simp
  | case3 a b c d tail ih =>
    simp only [bind, Option.bind_eq_some_iff] at h
    obtain ⟨_, _, _, _, _, _, _, _, ⟨_, _⟩, htail, heq⟩ := h
    cases heq
    have := ih htail
    simp at this ⊢
    omega
  | case4 e tail _ ih =>
    simp only [bind, Option.bind_eq_some_iff] at h
    obtain ⟨_, _, ⟨_, _⟩, htail, heq⟩ := h
    cases heq
    have := ih htail
    simp at this ⊢
    omega
  | case5 => cases h
  | case6 c tail _ _ _ _ ih =>
    simp only [bind, Option.bind_eq_some_iff] at h
    obtain ⟨⟨_, _⟩, htail, heq⟩ := h
    cases heq
    have := ih htail
    simp at this ⊢
    omega

theorem length_lt_of_token? {cs rest : List Char} {t : Token} (h : token? cs = some (t, rest)) :
    rest.length < cs.length := by
  unfold token? at h
  split at h
  case h_10 =>
    obtain ⟨⟨_, _⟩, hpieces, heq⟩ := Option.map_eq_some_iff.1 h
    cases heq
    have := length_lt_of_pieces? hpieces
    simp
    omega
  case h_11 =>
    obtain ⟨⟨_, _⟩, hnumber, heq⟩ := Option.map_eq_some_iff.1 h
    cases heq
    exact length_lt_of_number? hnumber
  all_goals
    cases h
    simp
    try omega

/-- The tokens of a text. -/
def tokens? (cs : List Char) : Option (List Token) :=
  match cs with
  | [] => some []
  | c :: rest =>
    if isSpace c then tokens? rest
    else
      match _h : token? (c :: rest) with
      | none => none
      | some (t, after) => (tokens? after).map (t :: ·)
termination_by cs.length
decreasing_by
  · simp
  · exact length_lt_of_token? ‹_›

/-! ## Values -/

mutual

/-- A value off the front of tokens. -/
def value? (ts : List Token) : Option (Taken Token Value ts) :=
  match ts with
  | .null :: rest => some ⟨.null, rest, Nat.lt_succ_self _⟩
  | .boolean b :: rest => some ⟨.boolean b, rest, Nat.lt_succ_self _⟩
  | .number n :: rest => some ⟨.number n, rest, Nat.lt_succ_self _⟩
  | .string (some s) :: rest => some ⟨.string s, rest, Nat.lt_succ_self _⟩
  | .string none :: rest => some ⟨.garbled, rest, Nat.lt_succ_self _⟩
  | .openBracket :: .closeBracket :: rest => some ⟨.array [], rest, by grind⟩
  | .openBracket :: rest => do
    let ⟨items, after, h⟩ ← items? rest
    return ⟨.array items, after, by grind⟩
  | .openBrace :: .closeBrace :: rest => some ⟨.object [], rest, by grind⟩
  | .openBrace :: rest => do
    let ⟨members, after, h⟩ ← members? rest
    let object :=
      match members.mapM fun (key, value) => key.map fun k => (k, value) with
      | some named => Value.object named
      | none => .garbled
    return ⟨object, after, by grind⟩
  | _ => none
termination_by (ts.length, 0)

/-- The items of an array whose opening bracket has been taken, up to the closing one. -/
def items? (ts : List Token) : Option (Taken Token (List Value) ts) := do
  let ⟨item, rest, h⟩ ← value? ts
  match dropHead? (· == .comma) rest with
  | some ⟨more, h'⟩ =>
    let ⟨items, after, h''⟩ ← items? more
    return ⟨item :: items, after, by omega⟩
  | none =>
    let ⟨after, h'⟩ ← dropHead? (· == .closeBracket) rest
    return ⟨[item], after, by omega⟩
termination_by (ts.length, 1)

/-- The members of an object whose opening brace has been taken, up to the closing one. -/
def members? (ts : List Token) : Option (Taken Token (List (Option String × Value)) ts) :=
  match ts with
  | .string key :: .colon :: start => do
    let ⟨value, rest, h⟩ ← value? start
    match dropHead? (· == .comma) rest with
    | some ⟨more, h'⟩ =>
      let ⟨members, after, h''⟩ ← members? more
      return ⟨(key, value) :: members, after, by grind⟩
    | none =>
      let ⟨after, h'⟩ ← dropHead? (· == .closeBrace) rest
      return ⟨[(key, value)], after, by grind⟩
  | _ => none
termination_by (ts.length, 1)

end

/-- The value that a text writes. -/
def Value.ofText? (text : String) : Option Value := do
  let ts ← tokens? text.toList
  let ⟨value, rest, _⟩ ← value? ts
  if rest.isEmpty then some value else none

end QueryBind.Json
