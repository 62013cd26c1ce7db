/-
# UTF-16 and UTF-32

Units of two or four octets, in either order. Two units of UTF-16 that are the
halves of a surrogate pair are one character; a half alone stands for itself. A
unit of UTF-32 has to be a code point. Octets at the end that are too few for a
unit are bad.
-/

import ApiGuide.Encoding.Utf8

namespace ApiGuide
namespace Wide

/-- Which octet of a unit comes first. -/
inductive Order where
  | little
  | big
deriving DecidableEq

/-- What is wrong with octets that form no unit, or a unit that is no code point. -/
inductive Flaw where
  | truncated
  | outOfRange
deriving DecidableEq

/-- Where and why octets are bad: the number of octets from the bad part on, the
bad part, and what is wrong with it. -/
structure Fault where
  left : Nat
  part : Octets
  flaw : Flaw
deriving DecidableEq

/-- The number of a unit from its octets. -/
def unit (order : Order) (octets : Octets) : Nat :=
  match order with
  | .big => octets.foldl (fun n b => n * 256 + b.toNat) 0
  | .little => octets.foldr (fun b n => n * 256 + b.toNat) 0

/-- A unit put behind the characters already read, last character first. The half
of a pair is joined with the half that came directly before it. -/
def push (c : CodePoint) (done : Text) : Text :=
  match done with
  | [] => [c]
  | high :: before =>
    if high.isHighSurrogate ∧ c.isLowSurrogate then CodePoint.ofPair high c :: before
    else c :: done

/-- The text of octets in UTF-16; `done` is what the octets before stand for, last
character first. -/
def decode16From (order : Order) : Octets → (done : Text) → Except Fault Text
  | [], done => .ok done.reverse
  | [a], _ => .error ⟨1, [a], .truncated⟩
  | a :: b :: rest, done =>
    decode16From order rest (push (CodePoint.ofNat (unit order [a, b])) done)

/-- The text of octets in UTF-16. -/
def decode16 (order : Order) (octets : Octets) : Except Fault Text := decode16From order octets []

/-- The text of octets in UTF-32; `done` is what the octets before stand for, last
character first. -/
def decode32From (order : Order) : Octets → (done : Text) → Except Fault Text
  | a :: b :: c :: d :: rest, done =>
    if unit order [a, b, c, d] < 0x110000 then
      decode32From order rest (CodePoint.ofNat (unit order [a, b, c, d]) :: done)
    else .error ⟨rest.length + 4, [a, b, c, d], .outOfRange⟩
  | [], done => .ok done.reverse
  | part, _ => .error ⟨part.length, part, .truncated⟩

/-- The text of octets in UTF-32. -/
def decode32 (order : Order) (octets : Octets) : Except Fault Text := decode32From order octets []

end Wide
end ApiGuide
