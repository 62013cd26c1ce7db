/-
# Responses

What the endpoints in section 3.6 of the specification answer with.

A response has a status, headers with names in small letters, and a body. Where no
response can be made there is a fault instead.
-/

import ApiGuide.Encoding.Surrogate
import ApiGuide.Json.Basic
import ApiGuide.Service.Port

namespace ApiGuide
namespace Service

/-- The headers of a response by name; the names are in small letters. -/
abbrev Headers := List (Text × Text)

/-- A single header. -/
def header (name value : Text) : Headers := [(name, value)]

/-- The header that names the origin that a response is shown to. -/
def allowOrigin : Text := "access-control-allow-origin"

/-- The header that lets credentials be sent. -/
def allowCredentials : Text := "access-control-allow-credentials"

/-- Whether a member of this name is left out of a value that is sent. -/
def isWithheld (name : Text) : Bool := (Text.ofString "_sa").isPrefixOf name

/-- Whether a header of this name is for pages of other sites. -/
def isForSites (name : Text) : Bool := (Text.ofString "access-control-").isPrefixOf name

/-- What a response carries: a value, a text, or a page whose content is not
described here, marked up or as a value. -/
inductive Body where
  | value (v : Json)
  | text (t : Text)
  | page
  | description

/-- A response. -/
structure Response where
  status : Nat
  headers : Headers
  body : Body

/-- Why there is no answer to a request: the port that is configured is no number, a
value cannot be sent, or something else was raised, which has a kind and a report. -/
inductive Fault where
  | port (fault : Port.Fault)
  | undefinedNumber
  | unsendable (fault : Encoding.Unsendable)
  | raised (kind message : Text)
deriving DecidableEq

/-- The report of a fault. -/
def Fault.message : Fault → Text
  | .port fault => fault.message
  | .undefinedNumber => "Out of range float values are not JSON compliant"
  | .unsendable fault => fault.message
  | .raised _ message => message

/-- What comes of a request: a response, or the fault that it ends with. -/
abbrev Outcome := Except Fault Response

end Service
end ApiGuide
