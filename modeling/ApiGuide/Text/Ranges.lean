/-
# Sets of code points as ranges

A set of code points is written as the list of its maximal stretches, lowest
first, each by its first and last member. The search stops at the first range
that begins above the wanted number.
-/

import ApiGuide.Text.Basic

namespace ApiGuide

/-- Stretches of numbers, each by its first and last member, in ascending order. -/
abbrev Ranges := List (Nat × Nat)

namespace Ranges

/-- The first member of the range that holds `n`. -/
def start? : Ranges → Nat → Option Nat
  | [], _ => none
  | (first, last) :: rest, n =>
    if n < first then none else if n ≤ last then some first else start? rest n

/-- Whether one of the ranges holds `n`. -/
def holds (ranges : Ranges) (n : Nat) : Bool := (ranges.start? n).isSome

end Ranges

end ApiGuide
