/-
# Blanks

A *blank* is a character that trimming removes: the code points that Unicode
gives the property `White_Space`, and the four information separators `U+001C`
to `U+001F`. The zero width space `U+200B` and the byte order mark `U+FEFF` are
not blank.
-/

import ApiGuide.Text.Ranges

namespace ApiGuide

/-- The blanks, as ascending ranges. -/
def blankRanges : Ranges :=
  [(0x9, 0xD), (0x1C, 0x20), (0x85, 0x85), (0xA0, 0xA0), (0x1680, 0x1680), (0x2000, 0x200A),
   (0x2028, 0x2029), (0x202F, 0x202F), (0x205F, 0x205F), (0x3000, 0x3000)]

namespace CodePoint

/-- Whether `c` is white space or an information separator. -/
def isBlank (c : CodePoint) : Bool := blankRanges.holds c.val

/-- Whether `c` is one of the information separators `U+001C` to `U+001F`. -/
def isSeparator (c : CodePoint) : Bool := decide (0x1C ≤ c.val ∧ c.val ≤ 0x1F)

/-- Whether `c` has the property `White_Space`. -/
def isWhiteSpace (c : CodePoint) : Bool := c.isBlank && !c.isSeparator

example : isBlank ' ' ∧ isBlank '\t' ∧ isBlank '\n' ∧ isBlank '\r' := by decide

example : ¬ isBlank (ofNat 0x200B) ∧ ¬ isBlank (ofNat 0xFEFF) := by decide

end CodePoint

end ApiGuide
