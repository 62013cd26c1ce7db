/-
# The way of a request

A service is built on a framework. The framework takes a request in, and puts the answer
of a handler out:

| the framework | by |
| --- | --- |
| tells the path in the address of a request | `Framework.address` |
| keeps to the rules for other sites | `Framework.crossing` |
| finds the endpoint, by the method and the path | `Framework.route` |
| reads what the endpoint asks of the request | `Framework.position`, `Framework.signature` |
| makes JSON of a value | `Framework.encode` |
| puts a value into a response | `Framework.render` |

At some of these steps it may answer a request on its own. What a framework does is not
settled here: whatever is stated about a service names what it takes for granted of the
framework, and `Stock.framework` is one to try a service on.

Around all stands the key guard. The rules for other sites come next, then the endpoint,
whose handler (section 3.6 of the specification) is `Framework.serve`. A fault on this way
leaves the request with the response to faults.
-/

import ApiGuide.Service.Endpoint
import ApiGuide.Service.Guard
import ApiGuide.Service.Report
import ApiGuide.Service.Response

namespace ApiGuide
namespace Service

/-- What a framework takes out of a request for the service, or what it answers on its
own instead. -/
inductive Taken (α : Type) where
  | given (a : α)
  | answered (own : Outcome)

/-- What the rules for other sites make of a request: it is answered at once, or it is
passed on and the headers of the response are completed. -/
inductive Crossing where
  | answered (response : Response)
  | passed (complete : Headers → Headers)

/-- What a service is built on. -/
structure Framework where
  /-- The path in the address of a request. -/
  address : Request → Except Fault Text
  /-- Whether a list of origins allows any origin. -/
  allowsAny : List Text → Bool
  /-- Whether an origin is one of a list. -/
  isListed : List Text → Text → Bool
  /-- What the rules for other sites make of a request. -/
  crossing : Policy → Request → Crossing
  /-- The endpoint that a request is for. -/
  route : Pages → Request → Taken Endpoint
  /-- The position in the body of a request. -/
  position : Request → Taken Position
  /-- The signature in the query of a request. -/
  signature : Request → Taken Text
  /-- What is sent for a value that a handler returns. -/
  encode : Json → Json
  /-- The response with a status, headers and a value. -/
  render : Nat → Headers → Json → Outcome
  /-- The response where there is a fault. -/
  failed : Response

namespace Framework

variable (F : Framework)

/-! ### Endpoints -/

/-- The response with a value that a handler returns. -/
def send (v : Json) : Outcome := F.render 200 [] (F.encode v)

/-- The response with a message about what is wrong. -/
def refuse (status : Nat) (headers : Headers) (message : Text) : Outcome :=
  F.render status headers (.object (Json.entry "detail" (.string message)))

/-- What comes of a request that something has to be taken out of first. -/
def andThen {α : Type} (taken : Taken α) (handle : α → Outcome) : Outcome :=
  match taken with
  | .given a => handle a
  | .answered own => own

/-- What comes of a request for an endpoint. -/
def serve (s : Service) (r : Request) : Endpoint → Outcome
  | .health =>
    match Port.ofText s.settings.port with
    | .ok port => F.send (health s port)
    | .error fault => .error (.port fault)
  | .info => F.send (Catalog.countsToJson s.guide.counts)
  | .capabilities => F.send (capabilities s)
  | .classNamed name =>
    match s.guide.catalog?.bind (·.get? name) with
    | some c => F.send (Catalog.classToJson name c)
    | none => F.refuse 404 [] "classe não encontrada"
  | .signature => andThen (F.signature r) fun raw =>
      F.send (.array ((Signature.parameters raw).map parameterToJson))
  | .completion => andThen (F.position r) fun p =>
      F.send (.array ((s.guide.complete p.text p.line p.character).map
        Payload.CompletionItem.toJson))
  | .signatureHelp => andThen (F.position r) fun p =>
      F.send (orNull Payload.SignatureHelp.toJson
        (s.guide.signatureHelp? p.text p.line p.character))
  | .hover => andThen (F.position r) fun p =>
      F.send (orNull Payload.Hover.toJson (s.guide.hover? p.text p.line p.character))

/-! ### The way to an endpoint -/

/-- What comes of a request that the guard and the rules for other sites let through. -/
def routed (s : Service) (r : Request) : Outcome :=
  andThen (F.route s.settings.pages r) (F.serve s r)

/-- What comes of a request that the guard lets through. -/
def crossed (s : Service) (r : Request) : Outcome :=
  match F.crossing s.settings.policy r with
  | .answered response => .ok response
  | .passed complete =>
    (F.routed s r).map fun response => { response with headers := complete response.headers }

/-- What comes of a request without the key. -/
def refusal : Outcome :=
  F.refuse 401 (header "www-authenticate" "Bearer, X-Api-Key") "invalid or missing API key"

/-- What comes of a request. -/
def answer (s : Service) (r : Request) : Outcome :=
  if Guard.isExempt s.settings r then F.crossed s r
  else
    match F.address r with
    | .error fault => .error fault
    | .ok path => if Guard.admits s.settings r path then F.crossed s r else F.refusal

/-- The response to a request. -/
def respond (s : Service) (r : Request) : Response :=
  match F.answer s r with
  | .ok response => response
  | .error _ => F.failed

end Framework
end Service
end ApiGuide
