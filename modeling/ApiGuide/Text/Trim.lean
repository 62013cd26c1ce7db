/-
# Trimming and words at an edge

Trimming removes the blanks at the edges of a text; what is left begins and ends
with a character that is no blank. The same operations are given for any class
of characters: the longest run of the class at the end of a text is its
*trailing run*.
-/

import ApiGuide.Text.Blank
import ApiGuide.Text.Word

namespace ApiGuide
namespace Text

/-- The text without its longest run of characters of a class at the end. -/
def dropEndWhile (p : CodePoint → Bool) (t : Text) : Text := (t.reverse.dropWhile p).reverse

/-- The longest run of characters of a class at the end of the text. -/
def takeEndWhile (p : CodePoint → Bool) (t : Text) : Text := (t.reverse.takeWhile p).reverse

/-- **The two cut the text in two.** -/
theorem dropEndWhile_append_takeEndWhile (p : CodePoint → Bool) (t : Text) :
    t.dropEndWhile p ++ t.takeEndWhile p = t := by
  unfold dropEndWhile takeEndWhile
  rw [← List.reverse_append, List.takeWhile_append_dropWhile, List.reverse_reverse]

/-- The text without the blanks before it. -/
def trimStart (t : Text) : Text := t.dropWhile CodePoint.isBlank

/-- The text without the blanks after it. -/
def trimEnd (t : Text) : Text := t.dropEndWhile CodePoint.isBlank

/-- The text without the blanks around it. -/
def trim (t : Text) : Text := t.trimStart.trimEnd

/-- The word that the text ends with, empty if its last character is no word character. -/
def trailingWord (t : Text) : Text := t.takeEndWhile CodePoint.isWord

/-- The word that the text begins with, empty if its first character is no word character. -/
def leadingWord (t : Text) : Text := t.takeWhile CodePoint.isWord

example : trim "  a b\t" = "a b" ∧ trailingWord "x.ab" = "ab" ∧ leadingWord "ab(c" = "ab" := by
  decide

end Text
end ApiGuide
