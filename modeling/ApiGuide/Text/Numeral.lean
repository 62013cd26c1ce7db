/-
# Written numbers

Whole numbers in decimal without leading zeros, a negative one after a minus
sign, and single bytes or UTF-16 units in hexadecimal with small letters.
-/

import ApiGuide.Text.Basic

namespace ApiGuide
namespace Text

/-- The digit of a number below sixteen. -/
def digit (n : Nat) : CodePoint :=
  if n < 10 then CodePoint.ofNat (48 + n) else CodePoint.ofNat (87 + n)

/-- The decimal digits of a number, written before `tail`. -/
def digitsBefore (n : Nat) (tail : Text) : Text :=
  if n < 10 then digit n :: tail else digitsBefore (n / 10) (digit (n % 10) :: tail)
termination_by n

/-- A natural number in decimal. -/
def ofNat (n : Nat) : Text := digitsBefore n []

/-- An integer in decimal. -/
def ofInt (n : Int) : Text :=
  if n < 0 then CodePoint.ofChar '-' :: ofNat n.natAbs else ofNat n.natAbs

/-- The lowest `width` hexadecimal digits of a number. -/
def ofHex : (width : Nat) → Nat → Text
  | 0, _ => []
  | width + 1, n => ofHex width (n / 16) ++ [digit (n % 16)]

example : ofNat 0 = "0" ∧ ofNat 4300 = "4300" ∧ ofInt (-7) = "-7" ∧ ofHex 2 0xE9 = "e9" := by
  decide +kernel

end Text
end ApiGuide
