/-
# Writing JSON

A value is written without blanks, and all characters stand for themselves but
those that a string cannot hold: the quote and the backslash after a backslash,
backspace, tab, line feed, form feed and carriage return as `\b \t \n \f \r`, and
the other characters below `U+0020` as `\u` with four hexadecimal digits.
-/

import ApiGuide.Json.Basic
import ApiGuide.Number.Shortest
import ApiGuide.Text.Split

namespace ApiGuide
namespace Json

/-- How a character is written in a string. -/
def escaped (c : CodePoint) : Text :=
  if c = '"' then "\\\""
  else if c = '\\' then "\\\\"
  else if c = '\n' then "\\n"
  else if c = '\r' then "\\r"
  else if c = '\t' then "\\t"
  else if c.val = 12 then "\\f"
  else if c.val = 8 then "\\b"
  else if c.val < 32 then "\\u" ++ Text.ofHex 4 c.val
  else [c]

/-- A string between quotes. -/
def writeString (t : Text) : Text := "\"" ++ t.flatMap escaped ++ "\""

mutual

/-- The text of a value. -/
def write : Json → Text
  | .null => "null"
  | .bool b => if b then "true" else "false"
  | .integer n => Text.ofInt n
  | .float x => x.toText
  | .string t => writeString t
  | .array items => "[" ++ Text.join "," (writeItems items) ++ "]"
  | .object entries => "\x7b" ++ Text.join "," (writeMembers entries) ++ "\x7d"

/-- The texts of some values. -/
def writeItems : List Json → List Text
  | [] => []
  | item :: rest => write item :: writeItems rest

/-- The texts of some members. -/
def writeMembers : List (Text × Json) → List Text
  | [] => []
  | (name, value) :: rest => (writeString name ++ ":" ++ write value) :: writeMembers rest

end

mutual

/-- Whether a floating point number in the value is infinite or undefined. -/
def hasUndefined : Json → Bool
  | .float x => !x.isFinite
  | .array items => itemsHaveUndefined items
  | .object entries => membersHaveUndefined entries
  | _ => false

/-- Whether one of some values has such a number in it. -/
def itemsHaveUndefined : List Json → Bool
  | [] => false
  | item :: rest => hasUndefined item || itemsHaveUndefined rest

/-- Whether one of some members has such a number in it. -/
def membersHaveUndefined : List (Text × Json) → Bool
  | [] => false
  | (_, value) :: rest => hasUndefined value || membersHaveUndefined rest

end

end Json
end ApiGuide
