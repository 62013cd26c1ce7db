/-
# Parameters

Steps 3 to 6 of `parse_signature` in section 3.2 of the specification.

One comma-free piece of a parameter list, trimmed, is read as a parameter:

| piece | name | annotation | default |
| --- | --- | --- | --- |
| `a` | `a` | | |
| `a: T` | `a` | `T` | |
| `a = 1` | `a` | | `1` |
| `a: T = 1` | `a` | `T` | `1` |
| `* a-b: T` | `b` | `T` | |
| `a: = 1` | `a` | empty | `1` |
| `a: T =` | `a` | | |

The reading with an annotation is tried from every position, the leftmost
success wins: a word, blanks, a colon, then the annotation up to the next equals
sign, not empty before it is trimmed. An equals sign must have a default after
it that stays on one line. Where no position has such a reading, the piece is
cut at its first equals sign, and the name ends at the first colon before that.
-/

import ApiGuide.Text.Split
import ApiGuide.Text.Trim

namespace ApiGuide

/-- A parameter of a signature: the texts of its name, annotation and default. -/
structure Parameter where
  name : Text
  type : Option Text
  default : Option Text
deriving DecidableEq

namespace Parameter

/-- The name of the parameter that receives the object of a method call. -/
def receiver : Text := "self"

/-- The annotation and the default that follow a name: a colon after blanks, a
nonempty annotation up to the next equals sign, and after that sign a default
that has no line break once the blanks before it are dropped. -/
def annotation? (rest : Text) : Option (Text × Option Text) :=
  match rest.trimStart with
  | [] => none
  | c :: body =>
    if c = ':' then
      let type := Text.upTo '=' body
      if type = [] then none
      else match Text.after? '=' body with
        | none => some (type.trim, none)
        | some value =>
          if value = [] ∨ CodePoint.lineFeed ∈ value.trimStart then none
          else some (type.trim, some value.trim)
    else none

/-- The leftmost reading of a piece as a name with an annotation. -/
def annotated? : Text → Option Parameter
  | [] => none
  | c :: rest =>
    if c.isWord then
      match annotation? (rest.dropWhile CodePoint.isWord) with
      | some (type, default) => some ⟨c :: rest.takeWhile CodePoint.isWord, some type, default⟩
      | none => annotated? rest
    else annotated? rest

/-- The text before the first equals sign and the first colon, trimmed. -/
def headName (token : Text) : Text :=
  ((token.upTo '=').upTo ':').trim

/-- The reading of a piece without regard to annotations: a name, and after the
first equals sign a default. There is none if the name would be empty. -/
def plain? (token : Text) : Option Parameter :=
  if headName token = [] then none
  else match token.after? '=' with
    | none => some ⟨headName token, none, none⟩
    | some value => some ⟨headName token, none, if value.trim = [] then none else some value.trim⟩

/-- The parameter that a trimmed piece stands for. -/
def ofToken? (token : Text) : Option Parameter := annotated? token <|> plain? token

/-- The parameter that a piece of a parameter list stands for. Blank pieces and
receivers stand for none. -/
def ofPiece? (piece : Text) : Option Parameter :=
  let token := piece.trim
  if token = [] ∨ headName token = receiver then none
  else (ofToken? token).filter (·.name ≠ receiver)

example : ofPiece? " a : T = f(x)" = some ⟨"a", some ↑"T", some ↑"f(x)"⟩ ∧
    ofPiece? "a: = 1" = some ⟨"a", some ↑"", some ↑"1"⟩ ∧
    ofPiece? "a: T =" = some ⟨"a", none, none⟩ ∧
    ofPiece? "self: T" = none := by decide

end Parameter
end ApiGuide
