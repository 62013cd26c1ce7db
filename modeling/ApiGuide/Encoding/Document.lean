/-
# The text of a document from its octets

The encoding of a JSON document shows in its first octets: a byte order mark, or
else the zeros among the octets of its first two characters, which are ASCII.

| first octets | encoding |
| --- | --- |
| `00 00 FE FF`, `FF FE 00 00` | UTF-32, after the mark |
| `FE FF`, `FF FE` | UTF-16, after the mark |
| `EF BB BF` | UTF-8, after the mark |
| `00 xx`, at least four or exactly two octets | UTF-16, big end first |
| `00 00`, at least four | UTF-32, big end first |
| `xx 00`, at least four and another of them not zero, or exactly two | UTF-16, little end first |
| `xx 00 00 00` | UTF-32, little end first |
| all others | UTF-8 |

A place in the octets counts the mark of UTF-16 and UTF-32 but not that of UTF-8.
-/

import ApiGuide.Encoding.Wide
import ApiGuide.Text.Numeral

namespace ApiGuide

/-- The encodings of documents. -/
inductive Encoding where
  | utf8
  | utf16 (order : Wide.Order)
  | utf32 (order : Wide.Order)
deriving DecidableEq

namespace Encoding

/-- The name of an encoding in messages. -/
def name : Encoding → Text
  | .utf8 => "utf-8"
  | .utf16 .little => "utf-16-le"
  | .utf16 .big => "utf-16-be"
  | .utf32 .little => "utf-32-le"
  | .utf32 .big => "utf-32-be"

/-- The encoding of octets without a byte order mark. -/
def ofZeros (octets : Octets) : Encoding :=
  match octets with
  | a :: b :: c :: d :: _ =>
    if a = 0 then if b = 0 then .utf32 .big else .utf16 .big
    else if b = 0 then if c = 0 ∧ d = 0 then .utf32 .little else .utf16 .little
    else .utf8
  | [a, b] => if a = 0 then .utf16 .big else if b = 0 then .utf16 .little else .utf8
  | _ => .utf8

/-- The encoding of octets, the number of octets that the byte order mark adds to a
place, and the octets after the mark. -/
def detect (octets : Octets) : Encoding × Nat × Octets :=
  if [0x00, 0x00, 0xFE, 0xFF].isPrefixOf octets then (.utf32 .big, 4, octets.drop 4)
  else if [0xFF, 0xFE, 0x00, 0x00].isPrefixOf octets then (.utf32 .little, 4, octets.drop 4)
  else if [0xFE, 0xFF].isPrefixOf octets then (.utf16 .big, 2, octets.drop 2)
  else if [0xFF, 0xFE].isPrefixOf octets then (.utf16 .little, 2, octets.drop 2)
  else if [0xEF, 0xBB, 0xBF].isPrefixOf octets then (.utf8, 0, octets.drop 3)
  else (ofZeros octets, 0, octets)

/-- What is wrong with octets, for any encoding. -/
inductive Flaw where
  | utf8 (flaw : Utf8.Flaw)
  | wide (flaw : Wide.Flaw)
deriving DecidableEq

/-- Why octets are no text: the encoding, the place and the octets of the bad part,
and what is wrong with it. -/
structure Fault where
  encoding : Encoding
  start : Nat
  part : Octets
  flaw : Flaw
deriving DecidableEq

/-- The text of octets in an encoding, with `mark` octets before them. -/
def decodeAs (encoding : Encoding) (mark : Nat) (octets : Octets) : Except Fault Text :=
  let wide := fun decoded : Except Wide.Fault Text => decoded.mapError fun fault =>
    (⟨encoding, mark + octets.length - fault.left, fault.part, .wide fault.flaw⟩ : Fault)
  match encoding with
  | .utf8 => (Utf8.decode octets).mapError fun fault =>
    ⟨encoding, mark + octets.length - fault.left, fault.part, .utf8 fault.flaw⟩
  | .utf16 order => wide (Wide.decode16 order octets)
  | .utf32 order => wide (Wide.decode32 order octets)

/-- The text of a document. -/
def decode (octets : Octets) : Except Fault Text :=
  let (encoding, mark, octets) := detect octets
  decodeAs encoding mark octets

/-- What a flaw is called. -/
def Flaw.message : Flaw → Text
  | .utf8 .invalidStart => "invalid start byte"
  | .utf8 .invalidContinuation => "invalid continuation byte"
  | .utf8 .unexpectedEnd => "unexpected end of data"
  | .wide .truncated => "truncated data"
  | .wide .outOfRange => "code point not in range(0x110000)"

/-- The report of a fault. -/
def Fault.message (fault : Fault) : Text :=
  let part : Text := match fault.part with
    | [b] => "byte 0x" ++ Text.ofHex 2 b.toNat ++ " in position " ++ Text.ofNat fault.start
    | part => "bytes in position " ++ Text.ofNat fault.start ++ "-" ++
        Text.ofNat (fault.start + part.length - 1)
  "'" ++ fault.encoding.name ++ "' codec can't decode " ++ part ++ ": " ++ fault.flaw.message

end Encoding
end ApiGuide
