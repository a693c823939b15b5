/-!
# Pieces

A text divided at a mark. There is always one piece more than there are marks.
-/

namespace QueryBind.Text

/-- The pieces of a text before, between and after its marks. -/
def pieces (mark : Char) : List Char → List (List Char)
  | [] => [[]]
  | c :: cs =>
    if c = mark then [] :: pieces mark cs
    else
      match pieces mark cs with
      | [] => [[c]]
      | piece :: others => (c :: piece) :: others

/-- The lines of a text. A line feed at its end begins no further line. -/
def linesOf (s : String) : List String :=
  let lines := (pieces '\n' s.toList).map String.ofList
  if lines.getLast? = some "" then lines.dropLast else lines

end QueryBind.Text
