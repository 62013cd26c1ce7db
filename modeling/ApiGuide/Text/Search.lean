/-
# Searching for words

A search goes through a text from the left, one character at a time, and stops at
the first place where it finds what it looks for. A word is taken as long as it is
where it is found.
-/

import ApiGuide.Text.Trim

namespace ApiGuide
namespace Text

/-- The word that a text begins with, if the text behind it passes a test. -/
def wordBefore? (test : Text → Bool) (t : Text) : Option Text :=
  if t.leadingWord ≠ [] ∧ test (t.dropWhile CodePoint.isWord) = true then some t.leadingWord
  else none

/-- The first word with a text behind it that passes a test. -/
def searchWord? (test : Text → Bool) : Text → Option Text
  | [] => none
  | c :: rest =>
    match wordBefore? test (c :: rest) with
    | some word => some word
    | none => searchWord? test rest

/-- The words of a text, in order and each with the position of its first character;
the text begins at `position`. -/
def words (position : Nat) : Text → List (Nat × Text)
  | [] => []
  | c :: rest =>
    if c.isWord then
      let word := c :: rest.takeWhile CodePoint.isWord
      (position, word) :: words (position + word.length) (rest.dropWhile CodePoint.isWord)
    else words (position + 1) rest
termination_by t => t.length
decreasing_by
  · have h := (List.dropWhile_sublist (l := rest) CodePoint.isWord).length_le
    simp only [List.length_cons]
    omega
  · simp

/-- The word that a position is on or at the end of, among words in order. -/
def wordOver? (k : Nat) : List (Nat × Text) → Option Text
  | [] => none
  | (start, word) :: rest =>
    if start ≤ k ∧ k ≤ start + word.length then some word
    else if k < start then none
    else wordOver? k rest

example : searchWord? (List.all · CodePoint.isBlank) "a.bc " = some ↑"bc" ∧
    words 0 "a.bc" = [(0, ↑"a"), (2, ↑"bc")] := by decide +kernel

end Text
end ApiGuide
