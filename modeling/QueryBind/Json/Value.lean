/-!
# JSON values

A JSON value as read or as to be written, and its written form over several lines: two blanks
deeper for each level, a space after a colon, and an empty array or object in one piece. The
members of an object keep their order, and a number keeps the digits it was written with.
-/

namespace QueryBind.Json

/-- A value. `garbled` is what holds a text with half a surrogate pair, as a string or as a key:
it is well formed, so it may stand where nobody reads it, but no record can be read from it. -/
inductive Value where
  | null
  | boolean (b : Bool)
  | number (numeral : String)
  | string (s : String)
  | garbled
  | array (items : List Value)
  | object (members : List (String × Value))
  deriving Inhabited

/-! ## Writing -/

/-- A character inside quotes. Quotes, backslashes and control characters are escaped. -/
def escapeChar (c : Char) : List Char :=
  if c = '"' then ['\\', '"']
  else if c = '\\' then ['\\', '\\']
  else if c = '\x08' then ['\\', 'b']
  else if c = '\x0c' then ['\\', 'f']
  else if c = '\n' then ['\\', 'n']
  else if c = '\r' then ['\\', 'r']
  else if c = '\t' then ['\\', 't']
  else if c.toNat < 0x20 then
    ['\\', 'u', '0', '0', Nat.digitChar (c.toNat / 16), Nat.digitChar (c.toNat % 16)]
  else [c]

/-- A text between quotes. -/
def quote (s : String) : String := "\"" ++ String.ofList (s.toList.flatMap escapeChar) ++ "\""

/-- The start of a line at a depth. -/
def indentation (depth : Nat) : String := "\n" ++ "".pushn ' ' (2 * depth)

/-- Parts between two brackets, each on a line of its own. -/
def bracketed (opening closing : String) (depth : Nat) (parts : List String) : String :=
  if parts.isEmpty then opening ++ closing
  else
    opening ++ ",".intercalate (parts.map (indentation (depth + 1) ++ ·)) ++ indentation depth ++
      closing

/-- The written form of a value at a depth. -/
def Value.render (depth : Nat) : Value → String
  | .null => "null"
  | .boolean b => if b then "true" else "false"
  | .number numeral => numeral
  | .string s => quote s
  | .garbled => "\"\""
  | .array items => bracketed "[" "]" depth (items.map (·.render (depth + 1)))
  | .object members =>
    bracketed "\x7b" "\x7d" depth
      (members.attach.map fun ⟨(key, value), _⟩ =>
        quote key ++ ": " ++ value.render (depth + 1))
termination_by v => sizeOf v
decreasing_by
  · simp_wf
    next h => have := List.sizeOf_lt_of_mem h; omega
  · simp_wf
    next h => have := List.sizeOf_lt_of_mem h; simp at this; omega

/-- The written form of a value. -/
def Value.pretty (v : Value) : String := v.render 0

end QueryBind.Json
