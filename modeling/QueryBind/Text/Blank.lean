/-!
# Blank text

Which characters count as blank, and what is left of a text without them. The class is the
property White_Space of Unicode, so the ideographic space and the line separators are blank and
the zero-width space is not. Everything that separates, trims or refuses blank text in this
library asks `isBlankChar`.
-/

namespace QueryBind.Text

/-- The property White_Space of Unicode. -/
def isBlankChar (c : Char) : Bool :=
  let n := c.toNat
  (0x09 ≤ n && n ≤ 0x0D) || n == 0x20 || n == 0x85 || n == 0xA0 || n == 0x1680 ||
    (0x2000 ≤ n && n ≤ 0x200A) || n == 0x2028 || n == 0x2029 || n == 0x202F ||
    n == 0x205F || n == 0x3000

/-- A name that is empty or holds blank characters only. -/
def isBlank (s : String) : Bool := s.toList.all isBlankChar

/-- Characters without the blank ones at the front. -/
def skipBlank (cs : List Char) : List Char := cs.dropWhile isBlankChar

/-- Characters without the blank ones at either end. -/
def trimChars (cs : List Char) : List Char :=
  (skipBlank (skipBlank cs).reverse).reverse

/-- A text without the blank characters at either end. -/
def trim (s : String) : String := String.ofList (trimChars s.toList)

/-- The longest pieces of a text that hold no blank character, from left to right. -/
def words (s : String) : List String := go s.toList
where
  go : List Char → List String
    | [] => []
    | c :: cs =>
      if isBlankChar c then go cs
      else
        String.ofList (c :: cs.takeWhile (!isBlankChar ·)) ::
          go (cs.dropWhile (!isBlankChar ·))
  termination_by cs => cs.length
  decreasing_by
    · simp
    · simpa [Nat.lt_succ_iff] using (List.dropWhile_sublist _).length_le

end QueryBind.Text
