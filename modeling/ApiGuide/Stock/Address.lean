/-
# Addresses of requests

The address of a request is its host, its path and its query, one after the other,
without tabs and line breaks:

| part | extent |
| --- | --- |
| authority | up to the first slash, question mark or number sign |
| path | from there up to the first question mark or number sign |

So where the path of a request does not begin with a slash, its front belongs to the
authority. In the authority the host stands behind the last `@`, in brackets or up to
the first colon. An authority is refused

* if only one kind of bracket is in it;
* if a host in brackets has something else before it than `@`, or behind it than a colon;
* if there are brackets, be it before the `@`, and the host is no number that may stand
  in brackets;
* if one of its characters is another form of one or more characters with a mark among
  them that parts an address.
-/

import ApiGuide.Service.Response
import ApiGuide.Stock.Host
import ApiGuide.Stock.Query
import ApiGuide.Text.Trim

namespace ApiGuide
namespace Stock

open Service (Fault Request isMark isShown)

/-- What is wrong with the address of a request. -/
inductive AddressFault where
  | bracket
  | host (fault : HostFault)
  | ambiguous (authority : Text)
deriving DecidableEq

/-- The report of a fault. -/
def AddressFault.message : AddressFault → Text
  | .bracket => "Invalid IPv6 URL"
  | .host fault => fault.message
  | .ambiguous authority =>
    "netloc '" ++ authority ++ "' contains invalid characters under NFKC normalization"

/-- The characters whose compatibility form has `/`, `?`, `#`, `@` or `:` in it, as
ascending ranges. -/
def ambiguousRanges : Ranges :=
  [(0x2047, 0x2049), (0x2100, 0x2101), (0x2105, 0x2106), (0x2A74, 0x2A74), (0xFE13, 0xFE13),
   (0xFE16, 0xFE16), (0xFE55, 0xFE56), (0xFE5F, 0xFE5F), (0xFE6B, 0xFE6B), (0xFF03, 0xFF03),
   (0xFF0F, 0xFF0F), (0xFF1A, 0xFF1A), (0xFF1F, 0xFF20)]

namespace Address

/-- Whether a character ends the authority of an address. -/
def isEnd (c : CodePoint) : Bool := decide (c = '/') || isMark c

/-- The host, the path and the query of a request, without tabs and line breaks. -/
def text (r : Request) : Text :=
  (r.host ++ r.path ++ Query.suffix r).filter isShown

/-- The authority of the address of a request. -/
def authority (r : Request) : Text := (text r).takeWhile fun c => !isEnd c

/-- The path in the address of a request. -/
def path (r : Request) : Text :=
  ((text r).dropWhile fun c => !isEnd c).takeWhile fun c => !isMark c

/-- The host and the port of an authority. -/
def place (authority : Text) : Text := Text.takeEndWhile (fun c => decide (c ≠ '@')) authority

/-- What is wrong with a host and a port in an authority with brackets, if anything. -/
def placeFault? (place : Text) : Option AddressFault :=
  match place.after? '[' with
  | none => (Host.fault? (place.upTo ':')).map .host
  | some rest =>
    let port := (rest.after? ']').getD []
    if place.head? ≠ some (CodePoint.ofChar '[') then some .bracket
    else if port ≠ [] ∧ port.head? ≠ some (CodePoint.ofChar ':') then some .bracket
    else (Host.fault? (rest.upTo ']')).map .host

/-- What is wrong with the brackets in an authority, if anything. -/
def bracketFault? (authority : Text) : Option AddressFault :=
  if CodePoint.ofChar '[' ∈ authority then
    if CodePoint.ofChar ']' ∈ authority then placeFault? (place authority) else some .bracket
  else if CodePoint.ofChar ']' ∈ authority then some .bracket
  else none

/-- What is wrong with an authority, if anything. -/
def fault? (authority : Text) : Option AddressFault :=
  match bracketFault? authority with
  | some fault => some fault
  | none =>
    if authority.any fun c => ambiguousRanges.holds c.val then some (.ambiguous authority) else none

/-- The path in the address of a request, if there is nothing wrong with the address. -/
def path? (r : Request) : Except Fault Text :=
  match fault? (authority r) with
  | some fault => .error (.raised "ValueError" fault.message)
  | none => .ok (path r)

end Address
end Stock
end ApiGuide
