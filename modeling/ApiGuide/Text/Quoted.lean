/-
# Quoted texts

A text in a message stands between quotes: double ones if it holds a single quote
and no double one, single ones otherwise. A backslash comes before a backslash,
before the quote and in `\t`, `\n` and `\r`; characters that are not printable are
shown by their number, with two, four or eight digits after `\x`, `\u` or `\U`.
-/

import ApiGuide.Text.Numeral
import ApiGuide.Text.Printable

namespace ApiGuide
namespace Text

/-- The quote that a text is put between. -/
def quoteFor (t : Text) : CodePoint :=
  if CodePoint.ofChar '\'' ∈ t ∧ CodePoint.ofChar '"' ∉ t then '"' else '\''

/-- A character between quotes. -/
def shown (quote c : CodePoint) : Text :=
  if c = quote ∨ c = '\\' then [CodePoint.ofChar '\\', c]
  else if c = '\t' then "\\t"
  else if c = '\n' then "\\n"
  else if c = '\x0d' then "\\r"
  else if c.isPrintable then [c]
  else if c.val < 0x100 then "\\x" ++ ofHex 2 c.val
  else if c.val < 0x10000 then "\\u" ++ ofHex 4 c.val
  else "\\U" ++ ofHex 8 c.val

/-- A text between quotes. -/
def quoted (t : Text) : Text := [quoteFor t] ++ t.flatMap (shown (quoteFor t)) ++ [quoteFor t]

example : quoted "a'b" = "\"a'b\"" ∧ quoted "a\nb" = "'a\\nb'" ∧ quoted "" = "''" := by decide

end Text
end ApiGuide
