/-
# What the stock framework grants to other sites

The stock framework answers preflights at once (`answersPreflights`), compares origins by
equality (`comparesOrigins`) and grants what a policy does (`grantsByPolicy`), as it is taken
for granted of a framework.

Headers that keep to a policy are put together from others that do (`grants_append`); so
this is shown header by header.
-/

import ApiGuide.Proofs.Service.Framework
import ApiGuide.Stock.Framework

namespace ApiGuide
namespace Stock
namespace CrossOrigin

open Service (Crossing Framework Headers Policy Request Response Settings allowCredentials
  allowOrigin header isForSites)
open Service.Framework (Grants grants_of_unmarked)

/-- **The stock framework compares origins.** -/
theorem comparesOrigins (depth : Nat) : (framework depth).ComparesOrigins where
  allowsAny_iff := decide_eq_true_iff
  isListed_iff := decide_eq_true_iff

/-! ### Headers that keep to a policy -/

variable {depth : Nat} {policy : Policy} {r : Request} {origin : Text}

/-- Headers that keep to a policy still do one after the other. -/
theorem grants_append {first second : Headers} (h : (framework depth).Grants policy r first)
    (h' : (framework depth).Grants policy r second) :
    (framework depth).Grants policy r (first ++ second) :=
  ⟨fun value hmem => (List.mem_append.1 hmem).elim (h.origin value) (h'.origin value),
    fun value hmem => (List.mem_append.1 hmem).elim (h.credentials value) (h'.credentials value)⟩

/-- A single header is the one header that it has. -/
theorem mem_header {name name' value value' : Text} :
    (name', value') ∈ header name value ↔ name' = name ∧ value' = value := by
  simp [header]

/-- The names of the headers that neither name an origin nor allow credentials. -/
def otherNames : List Text :=
  [contentType, "vary", "access-control-allow-methods", "access-control-max-age",
    "access-control-allow-headers"]

/-- None of these names is that of a header about origins or credentials. -/
theorem ne_of_mem_otherNames :
    ∀ name ∈ otherNames, allowOrigin ≠ name ∧ allowCredentials ≠ name := by
  decide +kernel

/-- A header of another name keeps to any policy. -/
theorem grants_header {name : Text} (hname : name ∈ otherNames) (value : Text) :
    (framework depth).Grants policy r (header name value) := by
  obtain ⟨horigin, hcredentials⟩ := ne_of_mem_otherNames name hname
  exact ⟨fun _ hmem => absurd (mem_header.1 hmem).1 horigin,
    fun _ hmem => absurd (mem_header.1 hmem).1 hcredentials⟩

/-- Credentials and origins have headers of their own. -/
theorem allowCredentials_ne_allowOrigin : allowCredentials ≠ allowOrigin := by
  decide

/-- The star is granted where any origin is allowed. -/
theorem grants_toAll (hany : allowsAny policy.origins = true) :
    (framework depth).Grants policy r toAll :=
  ⟨fun _ hmem => Or.inl ⟨(mem_header.1 hmem).2, hany⟩,
    fun _ hmem => absurd (mem_header.1 hmem).1 allowCredentials_ne_allowOrigin⟩

/-- An origin is granted by name to a request that comes from there, where it is allowed. -/
theorem grants_byName (hsite : r.header? "origin" = some origin)
    (hallowed : allowsAny policy.origins = true ∨ isListed policy.origins origin = true) :
    (framework depth).Grants policy r (byName origin) := by
  refine grants_append ⟨fun value hmem => ?_, fun value hmem => ?_⟩
    (grants_header (by simp [otherNames]) _)
  · obtain ⟨-, rfl⟩ := mem_header.1 hmem
    exact Or.inr ⟨hsite, hallowed⟩
  · exact absurd (mem_header.1 hmem).1 allowCredentials_ne_allowOrigin

/-- Credentials are granted where the policy says so. -/
theorem grants_credentials : (framework depth).Grants policy r (credentials policy) := by
  unfold credentials
  split
  · rename_i hcredentials
    exact ⟨fun _ hmem => absurd (mem_header.1 hmem).1.symm allowCredentials_ne_allowOrigin,
      fun _ _ => hcredentials⟩
  · exact grants_of_unmarked (List.forall_mem_nil _)

/-- **The marks keep to the policy.** -/
theorem grants_marks (hsite : r.header? "origin" = some origin) (hasCookie : Bool) :
    (framework depth).Grants policy r (marks policy origin hasCookie) := by
  unfold marks
  refine grants_append ?_ grants_credentials
  split
  · rename_i hany
    split
    · exact grants_byName hsite (Or.inl hany)
    · exact grants_toAll hany
  · split
    · rename_i hlisted
      exact grants_byName hsite (Or.inr hlisted)
    · exact grants_of_unmarked (List.forall_mem_nil _)

/-- **The headers of the answer to a preflight keep to the policy**, whether it is allowed
or not. -/
theorem grants_preflightHeaders (hsite : r.header? "origin" = some origin) :
    (framework depth).Grants policy r (preflightHeaders policy origin) := by
  unfold preflightHeaders
  refine grants_append (grants_append (grants_append (grants_append ?_ ?_) ?_) ?_)
    grants_credentials
  · split
    · rename_i hany
      exact grants_toAll hany
    · split
      · rename_i hlisted
        exact grants_byName hsite (Or.inr hlisted)
      · exact grants_header (by simp [otherNames]) _
  · exact grants_header (by simp [otherNames]) _
  · exact grants_header (by simp [otherNames]) _
  · exact grants_header (by simp [otherNames]) _

/-- The answer to a preflight has one of two statuses. -/
theorem status_preflight (policy : Policy) (origin method : Text) (requested : Option Text) :
    (preflight policy origin method requested).status ∈ [200, 400] := by
  unfold preflight
  split <;> simp [textResponse]

/-- The headers of the answer to a preflight keep to the policy, its type included. -/
theorem grants_preflight (hsite : r.header? "origin" = some origin) (method : Text)
    (requested : Option Text) :
    (framework depth).Grants policy r (preflight policy origin method requested).headers := by
  have hheaders : (framework depth).Grants policy r
      (header contentType textType ++ preflightHeaders policy origin) :=
    grants_append (grants_header (by simp [otherNames]) _) (grants_preflightHeaders hsite)
  unfold preflight
  split
  · exact hheaders
  · exact hheaders

/-! ### What is made of a request -/

/-- Only a preflight is answered at once. -/
theorem preflight_of_crossing {response : Response}
    (h : crossing policy r = .answered response) :
    r.method = "OPTIONS" ∧ ∃ origin method requested, r.header? "origin" = some origin ∧
      response = preflight policy origin method requested := by
  unfold crossing at h
  split at h
  · cases h
  · rename_i origin hsite
    split at h
    · split at h
      · rename_i hoptions
        exact ⟨hoptions, origin, _, _, hsite, (Crossing.answered.inj h).symm⟩
      · cases h
    · cases h

/-- A response that is passed on is left as it is, or marked for the origin of the
request. -/
theorem complete_of_crossing {complete : Headers → Headers}
    (h : crossing policy r = .passed complete) :
    complete = id ∨ ∃ origin hasCookie, r.header? "origin" = some origin ∧
      complete = (· ++ marks policy origin hasCookie) := by
  unfold crossing at h
  split at h
  · exact Or.inl (Crossing.passed.inj h).symm
  · rename_i origin hsite
    split at h
    · split at h
      · cases h
      · exact Or.inr ⟨origin, _, hsite, (Crossing.passed.inj h).symm⟩
    · exact Or.inr ⟨origin, _, hsite, (Crossing.passed.inj h).symm⟩

/-- **The stock framework answers preflights.** -/
theorem answersPreflights (depth : Nat) : (framework depth).AnswersPreflights where
  method h := (preflight_of_crossing h).1
  status {policy r response} h := by
    obtain ⟨-, origin, method, requested, hsite, rfl⟩ := preflight_of_crossing h
    exact status_preflight policy origin method requested

/-- **The stock framework grants by policy.** -/
theorem grantsByPolicy (depth : Nat) : (framework depth).GrantsByPolicy where
  answered h := by
    obtain ⟨-, origin, method, requested, hsite, rfl⟩ := preflight_of_crossing h
    exact grants_preflight hsite method requested
  passed {policy r complete headers} h hunmarked := by
    rcases complete_of_crossing h with rfl | ⟨origin, hasCookie, hsite, rfl⟩
    · exact grants_of_unmarked hunmarked
    · exact grants_append (grants_of_unmarked hunmarked) (grants_marks hsite hasCookie)

end CrossOrigin
end Stock
end ApiGuide
