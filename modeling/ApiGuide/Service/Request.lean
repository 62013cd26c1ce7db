/-
# Requests

A request names a path and may carry a query, headers and a body, which is any octets.
The path is the part of its target before the first question mark, with `%` and two
hexadecimal digits standing for an octet; octets that are no UTF-8 are replaced. The
query is the rest, as it is written.

Headers travel as the octets of UTF-8 but are read octet by octet, each as the
character of its number. So a header has no character beyond `U+00FF`.

The address of a request is written out of these parts and does not show all of them: it
has no tabs and line breaks, and its path ends before the first `?` or `#`.
-/

import ApiGuide.Encoding.Utf8
import ApiGuide.Text.Digit
import ApiGuide.Text.Split

namespace ApiGuide
namespace Service

/-- A request. The names of headers are compared without regard to case. -/
structure Request where
  method : Text
  host : Text
  path : Text
  query : Text
  headers : List (Text × Text)
  body : Octets

/-- The octets of a text in which `%` and two hexadecimal digits stand for an octet.
A `%` without two such digits stands for itself. -/
def percentOctets : Text → Octets
  | [] => []
  | [c] => Utf8.encodeOne c
  | [c, d] => Utf8.encodeOne c ++ Utf8.encodeOne d
  | c :: high :: low :: rest =>
    match high.hexDigit?, low.hexDigit? with
    | some a, some b =>
      if c = '%' then UInt8.ofNat (16 * a + b) :: percentOctets rest
      else Utf8.encodeOne c ++ percentOctets (high :: low :: rest)
    | _, _ => Utf8.encodeOne c ++ percentOctets (high :: low :: rest)

/-- The text that a text with percent signs stands for. -/
def percentDecode (t : Text) : Text := Utf8.decodeLossy (percentOctets t)

/-- The octets of a text, each as the character of its number. -/
def octetwise (t : Text) : Text := (Utf8.encode t).map fun b => CodePoint.ofNat b.toNat

namespace Request

/-- A request for a target, with a text for its body. The values of the headers and the
body are still to be put into octets. -/
def ofTarget (method host target : Text) (headers : List (Text × Text)) (body : Text) :
    Request where
  method := method
  host := host
  path := percentDecode (target.upTo '?')
  query := (target.after? '?').getD []
  headers := headers.map fun (name, value) => (name, octetwise value)
  body := Utf8.encode body

/-- The name of a header in small letters; the small letter of the Kelvin sign is a `k`. -/
def smallName (name : Text) : Text :=
  name.map fun c => if c.val = 0x212A then CodePoint.ofChar 'k' else c.toAsciiLower

/-- The value of the first header of a name, which is given in small letters. -/
def header? (r : Request) (name : Text) : Option Text :=
  (r.headers.find? fun header => smallName header.1 = name).map (·.2)

end Request

/-! ### Addresses -/

/-- Whether an address shows a character: it does not show tabs and line breaks. -/
def isShown (c : CodePoint) : Bool := !decide (c.val = 9 ∨ c.val = 10 ∨ c.val = 13)

/-- Whether a character ends the path of an address. -/
def isMark (c : CodePoint) : Bool := decide (c = '?' ∨ c = '#')

/-- A path as an address shows it. -/
def addressPath (path : Text) : Text := (path.filter isShown).takeWhile fun c => !isMark c

end Service
end ApiGuide
