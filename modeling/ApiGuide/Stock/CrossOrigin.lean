/-
# Requests from other sites

A request with the header `origin` comes from a page of that origin. By the method
`OPTIONS` and with the header `access-control-request-method` it is a preflight,
which asks whether a request would be allowed and is answered at once. All other
responses are marked with what the origin may do:

| allowed origins | header |
| --- | --- |
| any, and the request has no cookie | `access-control-allow-origin: *` |
| any, and the request has a cookie | the origin |
| a list that holds the origin | the origin |
| a list that does not | none |

A response that depends on the origin says so in the header `vary`.
-/

import ApiGuide.Service.Framework
import ApiGuide.Stock.Sending

namespace ApiGuide
namespace Stock
namespace CrossOrigin

open Service (Crossing Headers Policy Request Response Settings allowCredentials allowOrigin header)

/-- Whether a list of origins allows any origin. -/
def allowsAny (origins : List Text) : Bool := decide (Settings.anyOrigin ∈ origins)

/-- Whether an origin is one of a list. -/
def isListed (origins : List Text) (origin : Text) : Bool := decide (origin ∈ origins)

/-- Whether an origin is allowed. -/
def allows (policy : Policy) (origin : Text) : Bool :=
  allowsAny policy.origins || isListed policy.origins origin

/-- The headers that any request may have. -/
def safeHeaders : List Text :=
  ["Accept", "Accept-Language", "Content-Language", "Content-Type"]

/-- The headers that other sites may send, in order. -/
def headers (policy : Policy) : List Text :=
  (safeHeaders ++ policy.headers).mergeSort Text.atMost

/-- The headers that allow an origin by name. -/
def byName (origin : Text) : Headers := header allowOrigin origin ++ header "vary" "Origin"

/-- The headers that allow any origin. -/
def toAll : Headers := header allowOrigin Settings.anyOrigin

/-- The headers about credentials. -/
def credentials (policy : Policy) : Headers :=
  if policy.credentials then header allowCredentials "true" else []

/-- The headers that mark a response to an origin. -/
def marks (policy : Policy) (origin : Text) (hasCookie : Bool) : Headers :=
  let allowed := if allowsAny policy.origins then if hasCookie then byName origin else toAll
    else if isListed policy.origins origin then byName origin
    else []
  allowed ++ credentials policy

/-- Whether a list of header names holds only names that other sites may send. -/
def allowsHeaders (policy : Policy) (list : Text) : Bool :=
  (list.toAsciiLower.splitOn ',').all fun name =>
    decide (name.trim ∈ (headers policy).map Text.toAsciiLower)

/-- What a preflight asks for and may not have. -/
def failures (policy : Policy) (origin method : Text) (requested : Option Text) : List Text :=
  let part := fun (failed : Bool) (name : String) => if failed then [Text.ofString name] else []
  part (!allows policy origin) "origin" ++
    part (decide (method ∉ policy.methods)) "method" ++
    part (!requested.all (allowsHeaders policy)) "headers"

/-- The headers of the response to a preflight. -/
def preflightHeaders (policy : Policy) (origin : Text) : Headers :=
  let allowed := if allowsAny policy.origins then toAll
    else if isListed policy.origins origin then byName origin
    else header "vary" "Origin"
  allowed ++ header "access-control-allow-methods" (Text.join ", " policy.methods) ++
    header "access-control-max-age" "600" ++
    header "access-control-allow-headers" (Text.join ", " (headers policy)) ++ credentials policy

/-- The response to a preflight. -/
def preflight (policy : Policy) (origin method : Text) (requested : Option Text) : Response :=
  match failures policy origin method requested with
  | [] => textResponse 200 "OK" (preflightHeaders policy origin)
  | failed =>
    textResponse 400 ("Disallowed CORS " ++ Text.join ", " failed) (preflightHeaders policy origin)

/-- What the rules for other sites make of a request. -/
def crossing (policy : Policy) (r : Request) : Crossing :=
  match r.header? "origin" with
  | none => .passed id
  | some origin =>
    let marked : Crossing := .passed (· ++ marks policy origin (r.header? "cookie").isSome)
    match r.header? "access-control-request-method" with
    | some method =>
      if r.method = "OPTIONS" then
        .answered (preflight policy origin method (r.header? "access-control-request-headers"))
      else marked
    | none => marked

end CrossOrigin
end Stock
end ApiGuide
