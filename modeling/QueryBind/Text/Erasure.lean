import QueryBind.Text.Cluster

/-!
# Erasure

A text as it stands once its backspaces are carried out. A backspace takes the cluster before it
away; where there is none it does nothing. The size of a cluster in UTF-8 is kept in one byte, so
of a cluster of 256 bytes or more only the remainder is taken, from its end. Where that would cut
a character in two there is no answer.
-/

namespace QueryBind.Text

/-- Number of bytes of characters in UTF-8. -/
def byteSize : List Char → Nat
  | [] => 0
  | c :: cs => c.utf8Size + byteSize cs

/-- Characters without the first ones, which make up `n` bytes. -/
def dropBytes? (n : Nat) : List Char → Option (List Char)
  | [] => if n = 0 then some [] else none
  | c :: cs =>
    if n = 0 then some (c :: cs)
    else if c.utf8Size ≤ n then dropBytes? (n - c.utf8Size) cs
    else none

/-- A text, the last character first, and the sizes of its clusters, the last one first. -/
structure Typed where
  text : List Char := []
  sizes : List Nat := []

/-- The text after one more cluster, which may be a backspace. -/
def Typed.receive? (t : Typed) (cluster : List Char) : Option Typed :=
  if cluster = ['\x08'] then
    match t.sizes with
    | [] => some t
    | size :: sizes => (dropBytes? size t.text).map fun text => ⟨text, sizes⟩
  else some ⟨cluster.reverse ++ t.text, byteSize cluster % 256 :: t.sizes⟩

/-- A text with its backspaces carried out. -/
def erased? (s : String) : Option String :=
  ((clusters s.toList).foldlM Typed.receive? {}).map fun t => String.ofList t.text.reverse

end QueryBind.Text
