/-
# Blanks

The blanks that are trimmed from the ends of a text: the separators of the Unicode
standard, the breaks of lines and paragraphs, and the four information separators. White
space in the sense of the standard leaves out the information separators.
-/

import QuantityCalculus.Text.Range

namespace QuantityCalculus
namespace Text

/-- The blank code points. -/
def blankRanges : List (Nat × Nat) := [
  (0x9, 0xD), (0x1C, 0x20), (0x85, 0x85), (0xA0, 0xA0), (0x1680, 0x1680), (0x2000, 0x200A),
  (0x2028, 0x2029), (0x202F, 0x202F), (0x205F, 0x205F), (0x3000, 0x3000)]

/-- Whether a character is white space of any kind. -/
def isBlank (c : Char) : Bool := covers blankRanges c.toNat

/-- Whether a character is white space by the Unicode standard. -/
def isWhiteSpace (c : Char) : Bool := isBlank c && !(0x1C ≤ c.toNat && c.toNat ≤ 0x1F)

/-- The characters left when the white space at both ends is dropped. -/
def strip (cs : List Char) : List Char :=
  ((cs.dropWhile isWhiteSpace).reverse.dropWhile isWhiteSpace).reverse

/-- A text without the white space at its ends. -/
def stripped (s : String) : String := String.ofList (strip s.toList)

/-- The characters left when the blanks at the end are dropped. -/
def trimEnd (cs : List Char) : List Char := (cs.reverse.dropWhile isBlank).reverse

/-- The characters left when the blanks at both ends are dropped. -/
def trim (cs : List Char) : List Char := trimEnd (cs.dropWhile isBlank)

/-- A text without the blanks at its ends. -/
def trimmed (s : String) : String := String.ofList (trim s.toList)

end Text
end QuantityCalculus
