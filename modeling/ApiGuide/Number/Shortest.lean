/-
# The shortest decimal that reads back

A finite binary number is written with the fewest decimal digits that stand for
it: of all decimals that round to the number, one on the coarsest grid
`10 ^ k`, and of those the nearest. Numbers from `0.0001` to below `10 ^ 16` are
written with a point and at least one digit on either side of it, all others with
one digit before the point and an exponent of at least two digits:

| number | text |
| --- | --- |
| one tenth | `0.1` |
| minus zero | `-0.0` |
| `10 ^ 16` | `1e+16` |
| `1 / 100000` | `1e-05` |
-/

import ApiGuide.Number.Binary64

namespace ApiGuide
namespace Binary64

/-- The reals that round to a number, in units of `2 ^ (e - 2)`: from `low` to
`high` around `middle`, ends included iff `closed`. -/
structure Interval where
  low : Nat
  middle : Nat
  high : Nat
  closed : Bool

/-- The reals that round to `m · 2 ^ e`. Below a power of two the next number is
only half as far away. -/
def interval (m : Nat) (e : Int) : Interval :=
  ⟨if m = Nat.pow 2 52 ∧ -1074 < e then 4 * m - 1 else 4 * m - 2, 4 * m, 4 * m + 2, m % 2 == 0⟩

/-- Whether `x / scale` lies in the interval. -/
def Interval.holds (i : Interval) (x scale : Nat) : Bool :=
  if i.closed then decide (i.low * scale ≤ x ∧ x ≤ i.high * scale)
  else decide (i.low * scale < x ∧ x < i.high * scale)

/-- The multiple of `10 ^ k` in the interval that is nearest to the middle, as the
factor of the power; `e` is the exponent of the number. -/
def onGrid? (i : Interval) (e k : Int) : Option Nat :=
  let unit := Nat.pow 10 k.toNat * Nat.pow 2 (2 - e).toNat
  let scale := Nat.pow 10 (-k).toNat * Nat.pow 2 (e - 2).toNat
  let below := i.middle * scale / unit
  let above := below + 1
  match i.holds (below * unit) scale, i.holds (above * unit) scale with
  | true, true =>
    let down := i.middle * scale - below * unit
    let up := above * unit - i.middle * scale
    some (if down < up then below else if up < down then above
      else if below % 2 = 0 then below else above)
  | true, false => some below
  | false, true => some above
  | false, false => none

/-- The factor and the exponent on the coarsest grid that meets the interval,
searched from the grid `10 ^ k` down over `steps` grids. -/
def coarsest (i : Interval) (e : Int) : (steps : Nat) → (k : Int) → Nat × Int
  | 0, k => (0, k)
  | steps + 1, k =>
    match onGrid? i e k with
    | some digits => (digits, k)
    | none => coarsest i e steps (k - 1)

/-- A text of zeros. -/
def zeros (n : Int) : Text := List.replicate n.toNat '0'

/-- The text of `digits · 10 ^ k` for a positive `digits`. -/
def positionalOrScientific (digits : Nat) (k : Int) : Text :=
  let shown := Text.ofNat digits
  let point : Int := shown.length + k
  if -4 < point ∧ point ≤ 16 then
    if k ≥ 0 then shown ++ zeros k ++ ".0"
    else if point ≤ 0 then "0." ++ zeros (-point) ++ shown
    else shown.take point.toNat ++ "." ++ shown.drop point.toNat
  else
    let power := point - 1
    let exponent := Text.ofNat power.natAbs
    let exponent := if exponent.length < 2 then "0" ++ exponent else exponent
    let fraction : Text := if shown.length ≤ 1 then [] else "." ++ shown.drop 1
    shown.take 1 ++ fraction ++ "e" ++ (if power < 0 then "-" else "+") ++ exponent

/-- The text of a number. -/
def toText : Binary64 → Text
  | .nan => "NaN"
  | .infinite negative => if negative then "-Infinity" else "Infinity"
  | .finite negative m e =>
    let sign : Text := if negative then "-" else ""
    if m = 0 then sign ++ "0.0"
    else
      let (digits, k) := coarsest (interval m e) e 700 310
      sign ++ positionalOrScientific digits k

end Binary64
end ApiGuide
