/-
# Messages about JSON text

A mistake is reported with its place: the line, counted from one by line feeds,
the column, counted from one, and the offset from the start of the text, counted
from zero.
-/

import ApiGuide.Json.Lexeme
import ApiGuide.Text.Split

namespace ApiGuide
namespace Json

/-- Where something stands in a text. -/
structure Location where
  line : Nat
  column : Nat
  offset : Nat
deriving DecidableEq

/-- Where the text goes on after so many characters. -/
def Location.ofOffset (t : Text) (offset : Nat) : Location :=
  let before := t.take offset
  ⟨before.count CodePoint.lineFeed + 1,
    (before.reverse.takeWhile (· ≠ CodePoint.lineFeed)).length + 1, offset⟩

/-- What a mistake is called. -/
def Mistake.message : Mistake → Text
  | .expectingValue => "Expecting value"
  | .expectingName => "Expecting property name enclosed in double quotes"
  | .expectingColon => "Expecting ':' delimiter"
  | .expectingComma => "Expecting ',' delimiter"
  | .extraData => "Extra data"
  | .unterminatedString => "Unterminated string starting at"
  | .controlCharacter => "Invalid control character at"
  | .invalidEscape => "Invalid \\escape"
  | .invalidUnicodeEscape => "Invalid \\uXXXX escape"

/-- The offset of a mistake in the text that was read. -/
def offset (t : Text) (left : Nat) : Nat := t.length - left

/-- The report of a refusal to read a text. -/
def Refusal.message (t : Text) : Refusal → Text
  | .mistake what left =>
    let place := Location.ofOffset t (offset t left)
    what.message ++ ": line " ++ Text.ofNat place.line ++ " column " ++ Text.ofNat place.column ++
      " (char " ++ Text.ofNat place.offset ++ ")"
  | .tooManyDigits digits =>
    "Exceeds the limit (" ++ Text.ofNat digitLimit ++
      " digits) for integer string conversion: value has " ++ Text.ofNat digits ++
      " digits; use sys.set_int_max_str_digits() to increase the limit"
  | .tooDeep .array =>
    "maximum recursion depth exceeded while decoding a JSON array from a unicode string"
  | .tooDeep .object =>
    "maximum recursion depth exceeded while decoding a JSON object from a unicode string"

end Json
end ApiGuide
