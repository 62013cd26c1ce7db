/-
# The parameter list of a signature

Steps 1 and 2 of `parse_signature` in section 3.2 of the specification, the second of them
by `split_parameters`.

A signature is free text; its parameter list is the text between the first
opening bracket and the bracket that closes it:

| signature | parameter list |
| --- | --- |
| `spawn(self, at=(0, 0)) -> Actor` | `self, at=(0, 0)` |
| `) f (a) (b)` | `a` |
| `f((a)` | none |

A closing bracket before the first opening one, and everything behind the
closing bracket, play no part.
-/

import ApiGuide.Text.Split

namespace ApiGuide
namespace Signature

/-- The text up to the bracket that closes the one already open, when `depth`
more brackets have been opened since. -/
def upToClose : (depth : Nat) → Text → Option Text
  | _, [] => none
  | depth, c :: rest =>
    if c = '(' then (upToClose (depth + 1) rest).map (c :: ·)
    else if c = ')' then
      match depth with
      | 0 => some []
      | depth + 1 => (upToClose depth rest).map (c :: ·)
    else (upToClose depth rest).map (c :: ·)

/-- The text inside the first balanced pair of brackets, if there is one. -/
def parameterList? (raw : Text) : Option Text :=
  (raw.after? '(').bind (upToClose 0)

/-- The pieces of a parameter list: it is cut at every comma, also inside brackets. -/
def splitParameters (list : Text) : List Text := list.splitOn ','

example : parameterList? "f(a, g(b)) -> (c)" = some ("a, g(b)" : Text) ∧
    parameterList? "f((a)" = none ∧ parameterList? ")(a)" = some ("a" : Text) := by decide

end Signature
end ApiGuide
