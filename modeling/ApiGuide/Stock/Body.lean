/-
# Positions in bodies

The body of a request for help is a JSON object with a text, the number of a line
and the number of a character in it. A body is JSON if its type says so, or if it
has no type:

| body | outcome |
| --- | --- |
| none, or `null` | it is missing |
| a value that is no object | it is no object |
| of another type | it is no object, if its octets can be repeated as text; a fault if not |
| no JSON | a complaint about the offset of the mistake |
| too deep, too long a number, or octets that are no text | it cannot be read |
| an object | complaints about its fields, in order, or a position |

Fields that are not known do not matter.
-/

import ApiGuide.Json.Document
import ApiGuide.Service.Framework
import ApiGuide.Stock.Count

namespace ApiGuide
namespace Stock

open Service (Fault Outcome Request Taken)

/-- Why a body holds no position. -/
inductive BodyRefusal where
  | complaints (list : List Complaint)
  | unreadable
  | raised (fault : Fault)

namespace Body

/-- Whether a type of content, without parameters and in small letters, is JSON. -/
def isJsonType (type : Text) : Bool :=
  match type.splitOn '/' with
  | [main, sub] =>
    decide (main = "application" ∧ (sub = "json" ∨ (Text.ofString "+json").isSuffixOf sub))
  | _ => false

/-- Whether a body with a header about its type is JSON. -/
def isJson (header? : Option Text) : Bool :=
  match header? with
  | none => true
  | some value => decide (value = []) || isJsonType (value.upTo ';').trim.toAsciiLower

/-- The value in a body: nothing in an empty one, and the text of the octets in one of
another type. -/
def value (contentType? : Option Text) (body : Octets) (depth : Nat) : Except BodyRefusal Json :=
  if body = [] then .ok .null
  else if isJson contentType? then
    match Json.ofOctets body depth with
    | .ok value => .ok value
    | .error (.text t (.mistake what left)) =>
      .error (.complaints [⟨.notJson what, [.body, .offset (Json.offset t left)], .object []⟩])
    | .error _ => .error .unreadable
  else
    match Encoding.decodeAs .utf8 0 body with
    | .ok t => .ok (.string t)
    | .error fault => .error (.raised (.raised "UnicodeDecodeError" fault.message))

/-- The text in a value. -/
def readText : Json → Except Objection Text
  | .string t => .ok t
  | _ => .error .notText

/-- A field of an object, or the complaint about it. -/
def field {α : Type} (object : Json) (name : Text) (read : Json → Except Objection α) :
    Except Complaint α :=
  match object.get? name with
  | none => .error ⟨.missing, [.body, .field name], object⟩
  | some value => (read value).mapError fun objection => ⟨objection, [.body, .field name], value⟩

/-- The complaint about a field, if there is one. -/
def complaint {α : Type} : Except Complaint α → List Complaint
  | .error c => [c]
  | .ok _ => []

/-- The position in an object, or the complaints about all of its fields. -/
def ofObject (object : Json) : Except BodyRefusal Service.Position :=
  let text := field object "text" readText
  let line := field object "line" Count.read
  let character := field object "character" Count.read
  match text, line, character with
  | .ok text, .ok line, .ok character => .ok ⟨text, line, character⟩
  | text, line, character =>
    .error (.complaints (complaint text ++ complaint line ++ complaint character))

/-- The position in a value. -/
def ofJson : Json → Except BodyRefusal Service.Position
  | .null => .error (.complaints [⟨.missing, [.body], .null⟩])
  | .object entries => ofObject (.object entries)
  | value => .error (.complaints [⟨.notObject, [.body], value⟩])

/-- What comes of a request whose body holds no position. -/
def refused : BodyRefusal → Outcome
  | .complaints list => complain list
  | .unreadable => detail 400 [] "There was an error parsing the body"
  | .raised fault => .error fault

/-- The position in the body of a request, or the answer to a request without one. Values
that are nested deeper than `depth` are not read. -/
def position (depth : Nat) (r : Request) : Taken Service.Position :=
  match value (r.header? "content-type") r.body depth with
  | .error refusal => .answered (refused refusal)
  | .ok value =>
    match ofJson value with
    | .error refusal => .answered (refused refusal)
    | .ok position => .given position

end Body
end Stock
end ApiGuide
