/-
# Sending values

A value is sent as JSON, in octets. It can only be sent if no number in it is infinite
or undefined and no character is a surrogate. Of what a handler returns, members whose
names begin with `_sa` are left out.
-/

import ApiGuide.Json.Writer
import ApiGuide.Service.Response

namespace ApiGuide
namespace Stock

open Service (Headers Outcome Response header isWithheld)

/-- The name of the header that tells the type of the body. -/
def contentType : Text := "content-type"

/-- The type of a JSON body. -/
def jsonType : Text := "application/json"

/-- The type of a text. -/
def textType : Text := "text/plain; charset=utf-8"

/-- The type of a page. -/
def pageType : Text := "text/html; charset=utf-8"

mutual

/-- What is sent for a value. -/
def sendable : Json → Json
  | .array items => .array (sendableItems items)
  | .object entries => .object (Json.members (sendableMembers entries)).entries
  | value => value

/-- What is sent for some values. -/
def sendableItems : List Json → List Json
  | [] => []
  | item :: rest => sendable item :: sendableItems rest

/-- What is sent for some members. -/
def sendableMembers : List (Text × Json) → List (Text × Json)
  | [] => []
  | (name, value) :: rest =>
    if isWithheld name then sendableMembers rest
    else (name, sendable value) :: sendableMembers rest

end

/-- The response with a value, if it can be sent. -/
def render (status : Nat) (headers : Headers) (value : Json) : Outcome :=
  if value.hasUndefined then .error .undefinedNumber
  else
    match Encoding.unsendable? value.write with
    | some fault => .error (.unsendable fault)
    | none => .ok ⟨status, header contentType jsonType ++ headers, .value value⟩

/-- The response with a message about what is wrong. -/
def detail (status : Nat) (headers : Headers) (message : Text) : Outcome :=
  render status headers (.object (Json.entry "detail" (.string message)))

/-- The response with a text. -/
def textResponse (status : Nat) (t : Text) (headers : Headers) : Response :=
  ⟨status, header contentType textType ++ headers, .text t⟩

/-- The response where there is a fault. -/
def failed : Response := textResponse 500 "Internal Server Error" []

end Stock
end ApiGuide
