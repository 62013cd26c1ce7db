/-
# Port numbers

The setting `PORT` in section 4.1 of the specification, as `/health` reads it.

A port is configured as text: an integer in the decimal digits of any script, with
an optional sign, single low lines between digits, and blanks around it. The
information separators do not count as blanks here.
-/

import ApiGuide.Json.Message
import ApiGuide.Text.Quoted
import ApiGuide.Text.Trim

namespace ApiGuide
namespace Port

/-- Why a text is no port number. -/
inductive Fault where
  | notInteger (t : Text)
  | tooManyDigits (digits : Nat)
deriving DecidableEq

/-- The report of a fault. A long text is shown only in part. -/
def Fault.message : Fault → Text
  | .notInteger t => "invalid literal for int() with base 10: " ++ t.quoted.take 200
  | .tooManyDigits digits => (Json.Refusal.tooManyDigits digits).message []

/-- Drops the blanks around a text. -/
def trim (t : Text) : Text :=
  Text.dropEndWhile CodePoint.isWhiteSpace (t.dropWhile CodePoint.isWhiteSpace)

/-- The values of the digits that a text begins with, and the rest. A low line has
to stand between two digits. -/
def digits? : Text → Option (List Nat × Text)
  | [] => none
  | c :: rest =>
    match c.digitValue? with
    | none => none
    | some n =>
      match rest with
      | [] => some ([n], [])
      | d :: after =>
        let further := if d = '_' then digits? after
          else if d.digitValue?.isSome then digits? (d :: after)
          else some ([], d :: after)
        further.map fun (digits, rest) => (n :: digits, rest)

/-- The port number that a text stands for. -/
def ofText (t : Text) : Except Fault Int :=
  let (negative, unsigned) := Json.sign (trim t)
  match digits? unsigned with
  | none => .error (.notInteger t)
  | some (digits, rest) =>
    if Json.digitLimit < digits.length then .error (.tooManyDigits digits.length)
    else if rest ≠ [] then .error (.notInteger t)
    else
      let n : Nat := digits.foldl (fun n d => 10 * n + d) 0
      .ok (if negative then -n else n)

example : ofText " +1_000\t" = .ok 1000 ∧ ofText "007" = .ok 7 ∧
    ofText "1__0" = .error (.notInteger "1__0") := ⟨rfl, rfl, rfl⟩

end Port
end ApiGuide
