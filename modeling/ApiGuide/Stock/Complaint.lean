/-
# Complaints

What is wrong with the values that a request brings. A complaint names the place
of the value, in the query or in the body, and repeats the value; all complaints
about a request are reported together.
-/

import ApiGuide.Json.Message
import ApiGuide.Stock.Sending

namespace ApiGuide
namespace Stock

open Service (Outcome)

/-- What is wrong with a value. -/
inductive Objection where
  | missing
  | notObject
  | notText
  | notInteger
  | undefined
  | fractional
  | tooLarge
  | unreadable
  | notUnicode
  | negative
  | notJson (mistake : Json.Mistake)
deriving DecidableEq

namespace Objection

/-- The name of an objection. -/
def name : Objection → Text
  | .missing => "missing"
  | .notObject => "model_attributes_type"
  | .notText => "string_type"
  | .notInteger => "int_type"
  | .undefined => "finite_number"
  | .fractional => "int_from_float"
  | .tooLarge => "int_parsing_size"
  | .unreadable => "int_parsing"
  | .notUnicode => "string_unicode"
  | .negative => "greater_than_equal"
  | .notJson _ => "json_invalid"

/-- The report of an objection. -/
def message : Objection → Text
  | .missing => "Field required"
  | .notObject => "Input should be a valid dictionary or object to extract fields from"
  | .notText => "Input should be a valid string"
  | .notInteger => "Input should be a valid integer"
  | .undefined => "Input should be a finite number"
  | .fractional => "Input should be a valid integer, got a number with a fractional part"
  | .tooLarge => "Unable to parse input string as an integer, exceeded maximum size"
  | .unreadable => "Input should be a valid integer, unable to parse string as an integer"
  | .notUnicode => "Input should be a valid string, unable to parse raw data as a unicode string"
  | .negative => "Input should be greater than or equal to 0"
  | .notJson _ => "JSON decode error"

/-- Further facts about an objection. -/
def context : Objection → List (Text × Json)
  | .negative => Json.entry "ctx" (.object (Json.entry "ge" (.integer 0)))
  | .notJson mistake => Json.entry "ctx" (.object (Json.entry "error" (.string mistake.message)))
  | _ => []

end Objection

/-- A step to the place of a value: a part of the request, a field, or an offset. -/
inductive Spot where
  | query
  | body
  | field (name : Text)
  | offset (n : Nat)
deriving DecidableEq

/-- A step as a value. -/
def Spot.toJson : Spot → Json
  | .query => .string "query"
  | .body => .string "body"
  | .field name => .string name
  | .offset n => .integer n

/-- An objection to the value at a place. -/
structure Complaint where
  objection : Objection
  place : List Spot
  input : Json

/-- A complaint as a value. -/
def Complaint.toJson (c : Complaint) : Json :=
  .object (Json.entry "type" (.string c.objection.name) ++
    Json.entry "loc" (.array (c.place.map Spot.toJson)) ++
    Json.entry "msg" (.string c.objection.message) ++
    Json.entry "input" c.input ++ c.objection.context)

/-- The response to a request with complaints about it. -/
def complain (complaints : List Complaint) : Outcome :=
  render 422 []
    (sendable (.object (Json.entry "detail" (.array (complaints.map Complaint.toJson)))))

end Stock
end ApiGuide
