/-
# Lines

A text is cut into lines at its line ends. A line feed, a carriage return, and the two
one after the other are line ends, and so are the tabulation and separator characters
that end a line on paper:

| line end | name |
| --- | --- |
| `U+000A`, `U+000D` | line feed, carriage return |
| `U+000B`, `U+000C` | vertical tab, form feed |
| `U+001C`–`U+001E` | separators of files, groups and records |
| `U+0085` | next line |
| `U+2028`, `U+2029` | separators of lines and paragraphs |

There is no line after the last line end.
-/

import ApiGuide.Text.Ranges

namespace ApiGuide

/-- The characters that end a line, as ascending ranges. -/
def lineEndRanges : Ranges := [(0xA, 0xD), (0x1C, 0x1E), (0x85, 0x85), (0x2028, 0x2029)]

/-- Whether `c` ends a line. -/
def CodePoint.isLineEnd (c : CodePoint) : Bool := lineEndRanges.holds c.val

namespace Text

/-- The text with a line feed in place of each carriage return and line feed. -/
def joinLineEnds : Text → Text
  | [] => []
  | c :: rest =>
    match rest with
    | d :: after =>
      if c = '\x0d' ∧ d = '\n' then d :: joinLineEnds after else c :: joinLineEnds (d :: after)
    | [] => [c]

/-- The lines of a text in which every line end is one character; `line` is the
beginning of the first line, last character first. -/
def linesFrom : (line : Text) → Text → List Text
  | line, [] => if line = [] then [] else [line.reverse]
  | line, c :: rest =>
    if c.isLineEnd then line.reverse :: linesFrom [] rest else linesFrom (c :: line) rest

/-- The lines of a text. -/
def lines (t : Text) : List Text := linesFrom [] (joinLineEnds t)

example : lines "a\x0d\nb\n\nc" = (["a", "b", "", "c"] : List Text) ∧ lines "" = [] ∧
    lines "a\n" = (["a"] : List Text) := by
  decide

end Text
end ApiGuide
