/-
# Binary floating point numbers of 64 bits

A finite number is `± m · 2 ^ e` with `m < 2 ^ 53` and `-1074 ≤ e ≤ 971`, where
`m` is below `2 ^ 52` only if `e = -1074`. A decimal number stands for the
nearest of them; of two at the same distance, for the one with an even `m`; and
for an infinity from `2 ^ 1024 - 2 ^ 970` on.
-/

import ApiGuide.Text.Numeral

namespace ApiGuide

/-- A binary floating point number: zeros and infinities have a sign. -/
inductive Binary64 where
  | nan
  | infinite (negative : Bool)
  | finite (negative : Bool) (mantissa : Nat) (exponent : Int)
deriving DecidableEq

namespace Binary64

/-- A quotient rounded to the nearest whole number, a half to the even one. -/
def roundDiv (num den : Nat) : Nat :=
  let q := num / den
  let r := num % den
  if 2 * r < den then q else if den < 2 * r then q + 1 else q + q % 2

/-- `num / (den · 2 ^ e)` as a fraction of whole numbers. -/
def scaled (num den : Nat) (e : Int) : Nat × Nat :=
  if 0 ≤ e then (num, den * Nat.pow 2 e.toNat) else (num * Nat.pow 2 (-e).toNat, den)

/-- The number nearest to the positive fraction `num / den`. -/
def ofFraction (negative : Bool) (num den : Nat) : Binary64 :=
  let low : Int := Nat.log2 num - Nat.log2 den - 53
  let fits := fun e : Int => (scaled num den e).1 < Nat.pow 2 53 * (scaled num den e).2
  let e := max (if fits low then low else low + 1) (-1074)
  let m := roundDiv (scaled num den e).1 (scaled num den e).2
  let (m, e) := if m = Nat.pow 2 53 then (Nat.pow 2 52, e + 1) else (m, e)
  if 971 < e then .infinite negative else .finite negative m e

/-- The number nearest to `± digits · 10 ^ exponent`. A decimal exponent far out
of range is decided without computing the power. -/
def ofDecimal (negative : Bool) (digits : Nat) (exponent : Int) : Binary64 :=
  if digits = 0 then .finite negative 0 0
  else
    let magnitude : Int := (Nat.log2 digits / 4 : Nat) + exponent
    if 400 < magnitude then .infinite negative
    else if ((Nat.log2 digits : Nat) : Int) + exponent < -400 then .finite negative 0 0
    else if 0 ≤ exponent then ofFraction negative (digits * Nat.pow 10 exponent.toNat) 1
    else ofFraction negative digits (Nat.pow 10 (-exponent).toNat)

/-- The integer that a number equals, if it is whole. -/
def toInt? : Binary64 → Option Int
  | .nan => none
  | .infinite _ => none
  | .finite negative m e =>
    let sign : Int := if negative then -1 else 1
    if 0 ≤ e then some (sign * (m * Nat.pow 2 e.toNat : Nat))
    else if m % Nat.pow 2 (-e).toNat = 0 then some (sign * (m / Nat.pow 2 (-e).toNat : Nat))
    else none

/-- Whether the number is neither infinite nor undefined. -/
def isFinite : Binary64 → Bool
  | .finite _ _ _ => true
  | _ => false

example : ofDecimal false 1 (-1) = .finite false 7205759403792794 (-56) ∧
    ofDecimal false 5 (-324) = .finite false 1 (-1074) ∧
    ofDecimal true 1 400 = .infinite true ∧
    (ofDecimal false 150 (-1)).toInt? = some 15 := by decide +kernel

end Binary64
end ApiGuide
