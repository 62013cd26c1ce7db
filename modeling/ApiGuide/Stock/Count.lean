/-
# Counts in requests

A line and a column are counts from zero. They may come as an integer; as a truth
value, for zero or one; as a floating point number without fraction; or as text.

A text is a *plain* number, which is a zero or digits that begin with none, with a
minus sign or without; or it is made plain first:

| dropped | example |
| --- | --- |
| white space around it | ` 1 ` |
| a plus sign before it | `+1` |
| zeros before it, with low lines among them | `-0_01` |
| a fraction of zeros | `1.00` |
| single low lines between other characters | `1_0` |

Zeros may stand before the minus sign as well, as in `0-1`, but not on both of its
sides, and no two signs may stand together.
-/

import ApiGuide.Stock.Complaint

namespace ApiGuide
namespace Stock
namespace Count

/-! ### Plain numbers -/

/-- A text without the minus sign before it. -/
def unsigned (t : Text) : Text := if t.head? = some (CodePoint.ofChar '-') then t.drop 1 else t

/-- The number of characters in the sign and the digits that a text begins with. -/
def extent (t : Text) : Nat :=
  (t.length - (unsigned t).length) + ((unsigned t).takeWhile CodePoint.isAsciiDigit).length

/-- Whether a text begins with a plain number that is too long, whatever is behind it. -/
def runsOver (t : Text) : Bool :=
  decide ((unsigned t).head? ≠ some (CodePoint.ofChar '0') ∧ Json.digitLimit < extent t)

/-- The integer that a plain number stands for. -/
def plain? (t : Text) : Option Int :=
  let digits := unsigned t
  if digits = [] ∨ ¬ digits.all CodePoint.isAsciiDigit ∨ runsOver t ∨
      (digits.head? = some (CodePoint.ofChar '0') ∧ digits.length ≠ 1) then none
  else
    let n : Int := Json.ofDigits digits
    some (if digits.length < t.length then -n else n)

/-! ### Other numbers -/

/-- Removes the zeros and low lines before a number, `last` being the last of them so
far: it is kept where there is nothing behind it but a fraction. -/
def dropZeros : (last : CodePoint) → Text → Option Text
  | last, [] => some [last]
  | last, c :: rest =>
    if c = '0' ∨ c = '_' then dropZeros c rest
    else if c.isAsciiDigit ∨ c = '-' then some (c :: rest)
    else if c = '.' then some (last :: c :: rest)
    else none

/-- A number without the zeros before it. -/
def withoutZeros? : Text → Option Text
  | [] => none
  | c :: rest =>
    if c = '0' then dropZeros c rest else if c.isAsciiDigit then some (c :: rest) else none

/-- A number without a fraction of zeros, of which there is one at least. -/
def withoutFraction (t : Text) : Text :=
  match t.after? '.' with
  | some fraction =>
    if fraction ≠ [] ∧ fraction.all fun c => decide (c = '0') then t.upTo '.' else t
  | none => t

/-- A number without its low lines, which stand only between other characters. -/
def withoutLines (t : Text) : Text :=
  if (t.splitOn '_').all fun part => decide (part ≠ []) then
    t.filter fun c => decide (c ≠ '_')
  else t

/-- What a number without sign is made to be plain. -/
def madePlain? (t : Text) : Option Text := (withoutZeros? t).map (withoutLines <| withoutFraction ·)

/-- What a number is made to be plain. -/
def cleaned? (t : Text) : Option Text :=
  match Port.trim t with
  | [] => none
  | c :: rest =>
    if c = '+' then madePlain? rest
    else if c = '-' then (madePlain? rest).map (c :: ·)
    else madePlain? (c :: rest)

/-! ### Reading -/

/-- The integer that a text stands for. -/
def ofText (t : Text) : Except Objection Int :=
  if t.any CodePoint.isSurrogate then .error .notUnicode
  else if runsOver t then .error .tooLarge
  else
    match plain? t <|> (cleaned? t).bind plain? with
    | some n => .ok n
    | none => .error .unreadable

example : ofText "0-1" = .ok (-1) ∧ ofText "-0_01" = .ok (-1) ∧ ofText "+00.0" = .ok 0 ∧
    ofText "+-1" = .error .unreadable ∧ ofText "1." = .error .unreadable :=
  ⟨rfl, rfl, rfl, rfl, rfl⟩

/-- The integers that are taken from floating point numbers lie strictly between
the negative of this number and the number itself. -/
def floatLimit : Nat := Nat.pow 2 63

/-- The integer that a floating point number equals. -/
def ofBinary64 (x : Binary64) : Except Objection Int :=
  match x with
  | .finite _ _ _ =>
    match x.toInt? with
    | none => .error .fractional
    | some n => if n.natAbs < floatLimit then .ok n else .error .tooLarge
  | _ => .error .undefined

/-- The integer that a value stands for. -/
def ofJson : Json → Except Objection Int
  | .integer n => .ok n
  | .bool b => .ok (if b then 1 else 0)
  | .float x => ofBinary64 x
  | .string t => ofText t
  | _ => .error .notInteger

/-- The count that a value stands for. -/
def read (value : Json) : Except Objection Nat :=
  match ofJson value with
  | .error objection => .error objection
  | .ok n => if 0 ≤ n then .ok n.toNat else .error .negative

end Count
end Stock
end ApiGuide
