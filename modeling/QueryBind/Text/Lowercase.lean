import QueryBind.Text.LetterData

/-!
# Lower case

The lower-case form of a text by the full default mapping of Unicode. Three rules decide it:

* a letter of `lowerRuns` goes to its one-character form;
* the dotted capital I becomes an i followed by a combining dot;
* a capital sigma that ends a word (a cased letter before it, none after it, case-ignorable
  characters skipped on both sides) becomes the final sigma, any other one the medial sigma.

All other characters stay.
-/

namespace QueryBind.Text

/-- Membership of a code point in a list of runs. -/
def inRuns (runs : List (Nat × Nat)) (c : Char) : Bool :=
  runs.any fun (first, last) => first ≤ c.toNat && c.toNat ≤ last

def isCased (c : Char) : Bool := inRuns casedRuns c

def isCaseIgnorable (c : Char) : Bool := inRuns caseIgnorableRuns c

/-- The lower-case form of a character that stands alone. -/
def lowerChar (c : Char) : List Char :=
  if c = '\u0130' then ['i', '\u0307']
  else
    match lowerRuns.find? fun (first, last, step, _) =>
        first ≤ c.toNat && c.toNat ≤ last && (c.toNat - first) % step == 0 with
    | some (_, _, _, shift) => [Char.ofNat (c.toNat + shift).toNat]
    | none => [c]

/-- A cased letter follows once case-ignorable characters are skipped. -/
def meetsCased (cs : List Char) : Bool :=
  match cs.dropWhile isCaseIgnorable with
  | [] => false
  | c :: _ => isCased c

/-- Lower-case form of the characters `cs` that follow those of `before`, the nearest first. -/
def lowerFrom (before : List Char) : List Char → List Char
  | [] => []
  | c :: cs =>
    let form :=
      if c = 'Σ' then
        if meetsCased before && !meetsCased cs then ['ς'] else ['σ']
      else lowerChar c
    form ++ lowerFrom (c :: before) cs

/-- A text in lower case. -/
def lowercase (s : String) : String := String.ofList (lowerFrom [] s.toList)

end QueryBind.Text
