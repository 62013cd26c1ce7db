/-
# The key guard

Where a key is configured, a request has to carry it (`api_key_guard`, section 3.6 of the
specification), but for these:

* a request by the method `OPTIONS` or `HEAD`;
* a request for an open path: `/health`, and the pages where they are public.

The path is the one in the address of the request.

The key is the value of the header `x-api-key`, or else what follows `Bearer` and a
space, in any case, in the header `authorization`. Blanks around a key do not count.
-/

import ApiGuide.Service.Request
import ApiGuide.Service.Settings

namespace ApiGuide
namespace Service
namespace Guard

/-- The paths that are open to requests without a key. -/
def openPaths (s : Settings) : List Text :=
  "/health" :: if s.openDocs && s.docsPublic then s.pages.paths else []

/-- The word before a key in the header `authorization`. -/
def scheme : Text := "bearer "

/-- The key that a request carries, the empty text if it carries none. -/
def carried (r : Request) : Text :=
  let key := match r.header? "x-api-key" with
    | some key => key
    | none =>
      match r.header? "authorization" with
      | some value =>
        if Text.toAsciiLower (value.take scheme.length) = scheme then value.drop scheme.length
        else []
      | none => []
  key.trim

/-- Whether a request carries the configured key. -/
def isValid (s : Settings) (r : Request) : Bool :=
  decide (carried r ≠ [] ∧ carried r = s.key.trim)

/-- Whether the guard does not look at a request. -/
def isExempt (s : Settings) (r : Request) : Bool :=
  decide (r.method = "OPTIONS" ∨ r.method = "HEAD" ∨ s.key = [])

/-- Whether a request for a path may pass. -/
def admits (s : Settings) (r : Request) (path : Text) : Bool :=
  decide (path ∈ openPaths s) || isValid s r

end Guard
end Service
end ApiGuide
