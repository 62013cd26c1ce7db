/-
# What is taken for granted of a framework

What a framework does is known by its documentation only. Each structure here is one thing
that it is documented to do; a theorem about a service has those as hypotheses that it
rests on, and no others:

| structure | the framework |
| --- | --- |
| `CutsAddresses` | drops tabs and line breaks from an address, and cuts its path at a mark |
| `RoutesByPath` | finds an endpoint by its method and its path |
| `EncodesByParts` | leaves members out whose names begin with `_sa`, and nothing else |
| `RendersValues` | puts a value into a response as it is |
| `AnswersPreflights` | answers at once only what asks by the method `OPTIONS` |
| `ComparesOrigins` | takes a star for any origin, and compares other origins |
| `GrantsByPolicy` | names an origin, or allows credentials, only as the policy says |
| `AnswersPlainly` | has a few statuses for its own answers, and marks none of them |
| `DecodesQueries` | reads what a query writes with percent signs as UTF-8 |

The stock framework does all of this.
-/

import ApiGuide.Proofs.Service.Sending
import ApiGuide.Service.Framework

namespace ApiGuide
namespace Service

/-! ### Addresses -/

/-- **An address keeps the beginning of a path**, up to the first character that it does
not show or that ends the path. -/
theorem prefix_addressPath {root path : Text}
    (hroot : ∀ c ∈ root, isShown c = true ∧ isMark c = false) (h : root <+: path) :
    root <+: addressPath path := by
  obtain ⟨rest, rfl⟩ := h
  have hshown : root.filter isShown = root := List.filter_eq_self.2 fun c hc => (hroot c hc).1
  unfold addressPath
  rw [List.filter_append, hshown,
    List.takeWhile_append_of_pos fun c hc => by rw [(hroot c hc).2]; rfl]
  exact List.prefix_append _ _

/-! ### Paths -/

/-- An endpoint that has a path: the name of a class is not empty and holds no slash. -/
def Endpoint.HasPath : Endpoint → Prop
  | .classNamed name => name ≠ [] ∧ CodePoint.ofChar '/' ∉ name
  | _ => True

/-! ### Responses -/

/-- The names of the headers about the body of a response. -/
def contentHeaders : List Text := ["content-length", "content-type"]

/-- The statuses that a framework has for its own answers. -/
def ownStatuses : List Nat := [200, 307, 400, 404, 405, 422]

/-- A response with one of these statuses that marks nothing for other sites. -/
structure IsPlain (response : Response) : Prop where
  status : response.status ∈ ownStatuses
  unmarked : ∀ h ∈ response.headers, isForSites h.1 = false

namespace Framework

variable (F : Framework)

/-- The path in the address of a request is that of the request as an address shows it.
The host is that of a test client, and the path begins with a slash: so no part of one can
be taken for the other. -/
structure CutsAddresses : Prop where
  address {r : Request} : r.host = "testserver" → r.path.head? = some (CodePoint.ofChar '/') →
    F.address r = .ok (addressPath r.path)

/-- A request is for an endpoint if it has the method and the path of it. A line break at
the end of the path may not count. -/
structure RoutesByPath : Prop where
  method {s : Settings} {r : Request} {e : Endpoint} :
    F.route s.pages r = .given e → r.method = e.method
  path {s : Settings} {r : Request} {e : Endpoint} : F.route s.pages r = .given e →
    r.path = e.path ∨ r.path = e.path ++ [CodePoint.lineFeed]
  hasPath {s : Settings} {r : Request} {e : Endpoint} : F.route s.pages r = .given e → e.HasPath
  given {s : Settings} {r : Request} {e : Endpoint} : e.HasPath → r.method = e.method →
    r.path = e.path → F.route s.pages r = .given e

/-- What is sent for a value has the parts of the value, but for the members that are
withheld; and it can be sent if the value can. -/
structure EncodesByParts : Prop where
  scalar {v : Json} : v.kind ≠ .array → v.kind ≠ .object → F.encode v = v
  array {items : List Json} : F.encode (.array items) = .array (items.map F.encode)
  object {entries : List (Text × Json)} : (entries.map Prod.fst).Nodup →
    F.encode (.object entries) = .object ((entries.filter fun entry => !isWithheld entry.1).map
      fun entry => (entry.1, F.encode entry.2))
  canBeSent {depth : Nat} {v : Json} : CanBeSent depth v → CanBeSent depth (F.encode v)

/-- A value that can be sent gets a response; and a response with a value is as it was to
be, with headers about its body besides. -/
structure RendersValues : Prop where
  sent {status : Nat} {headers : Headers} {v : Json} : CanBeSent sentDepth v →
    ∃ response, F.render status headers v = .ok response
  kept {status : Nat} {headers : Headers} {v : Json} {response : Response} :
    F.render status headers v = .ok response → response.status = status ∧
      response.body = .value v ∧ ∀ h ∈ response.headers, h ∈ headers ∨ h.1 ∈ contentHeaders

/-- Only a request by the method `OPTIONS` is answered by the rules for other sites; it may
do what it asks for, or not. -/
structure AnswersPreflights : Prop where
  method {policy : Policy} {r : Request} {response : Response} :
    F.crossing policy r = .answered response → r.method = "OPTIONS"
  status {policy : Policy} {r : Request} {response : Response} :
    F.crossing policy r = .answered response → response.status ∈ [200, 400]

/-- A list of origins allows any origin exactly where a star is on it, and one origin is on
a list if it equals an entry. -/
structure ComparesOrigins : Prop where
  allowsAny_iff {origins : List Text} : F.allowsAny origins = true ↔ Settings.anyOrigin ∈ origins
  isListed_iff {origins : List Text} {origin : Text} :
    F.isListed origins origin = true ↔ origin ∈ origins

/-- Headers that name an origin, and allow credentials, only as a policy says:

| header | where |
| --- | --- |
| `access-control-allow-origin: *` | any origin is allowed |
| `access-control-allow-origin` with an origin | the request is from there, and may be |
| `access-control-allow-credentials` | credentials may be sent |
-/
structure Grants (policy : Policy) (r : Request) (headers : Headers) : Prop where
  origin : ∀ value, (allowOrigin, value) ∈ headers →
    (value = Settings.anyOrigin ∧ F.allowsAny policy.origins = true) ∨
      (r.header? "origin" = some value ∧
        (F.allowsAny policy.origins = true ∨ F.isListed policy.origins value = true))
  credentials : ∀ value, (allowCredentials, value) ∈ headers → policy.credentials = true

/-- The answer to a preflight grants what the policy does, and so does a response that was
not marked before. -/
structure GrantsByPolicy : Prop where
  answered {policy : Policy} {r : Request} {response : Response} :
    F.crossing policy r = .answered response → F.Grants policy r response.headers
  passed {policy : Policy} {r : Request} {complete : Headers → Headers} {headers : Headers} :
    F.crossing policy r = .passed complete → (∀ h ∈ headers, isForSites h.1 = false) →
      F.Grants policy r (complete headers)

/-- What the framework answers on its own is plain, and faults are told by a status of
their own. -/
structure AnswersPlainly : Prop where
  route {pages : Pages} {r : Request} {response : Response} :
    F.route pages r = .answered (.ok response) → IsPlain response
  position {r : Request} {response : Response} :
    F.position r = .answered (.ok response) → IsPlain response
  signature {r : Request} {response : Response} :
    F.signature r = .answered (.ok response) → IsPlain response
  failed : F.failed.status = 500 ∧ ∀ h ∈ F.failed.headers, isForSites h.1 = false

/-- A signature from a query holds no surrogates. -/
structure DecodesQueries : Prop where
  signature {r : Request} {raw : Text} : F.signature r = .given raw → raw.SurrogateFree

variable {F}

/-- Headers that mark nothing keep to any policy. -/
theorem grants_of_unmarked {policy : Policy} {r : Request} {headers : Headers}
    (h : ∀ field ∈ headers, isForSites field.1 = false) : F.Grants policy r headers :=
  ⟨fun _ hmem => absurd (h _ hmem) (by decide : ¬ isForSites allowOrigin = false),
    fun _ hmem => absurd (h _ hmem) (by decide : ¬ isForSites allowCredentials = false)⟩

/-- No header about a body marks anything. -/
theorem isForSites_of_mem_contentHeaders :
    ∀ name ∈ contentHeaders, isForSites name = false := by
  decide

/-- **What a handler returns is sent** if it can be. -/
theorem exists_send (hencode : F.EncodesByParts) (hrender : F.RendersValues) {v : Json}
    (h : CanBeSent sentDepth v) : ∃ response, F.send v = .ok response :=
  hrender.sent (hencode.canBeSent h)

/-- A response with a value is plain if it was to be. -/
theorem isPlain_of_render (hrender : F.RendersValues) {status : Nat} {headers : Headers} {v : Json}
    {response : Response} (hstatus : status ∈ ownStatuses)
    (hheaders : ∀ field ∈ headers, isForSites field.1 = false)
    (h : F.render status headers v = .ok response) : IsPlain response := by
  obtain ⟨hsame, -, hfields⟩ := hrender.kept h
  refine ⟨hsame ▸ hstatus, fun field hfield => ?_⟩
  rcases hfields field hfield with hgiven | hcontent
  · exact hheaders field hgiven
  · exact isForSites_of_mem_contentHeaders _ hcontent

/-- **What is wrong is told**, where it is told without surrogates. -/
theorem exists_refuse (hrender : F.RendersValues) (status : Nat) (headers : Headers)
    {message : Text} (h : message.SurrogateFree) :
    ∃ response, F.refuse status headers message = .ok response := by
  refine hrender.sent (canBeSent_object.2 fun entry hentry => ?_)
  obtain rfl := List.mem_singleton.1 hentry
  exact ⟨Text.surrogateFree_ofString "detail", canBeSent_string.2 h⟩

end Framework
end Service
end ApiGuide
