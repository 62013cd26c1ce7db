/-
# What other sites are granted

What a response grants to other sites keeps to the policy of the settings
(`grants_respond`): the framework grants no more on its way, and neither the refusal of the
guard nor a failure grants anything.

What is allowed is read off a variable, whose entries are trimmed: one of them that is a star
allows any origin, wherever it stands, and takes the credentials away. So no response allows
any origin and credentials, and none allows an origin that the variable does not list
(`respond_grants_only_listed`).
-/

import ApiGuide.Proofs.Service.Start
import ApiGuide.Proofs.Service.Status
import ApiGuide.Proofs.Stock.CrossOrigin
import ApiGuide.Proofs.Stock.Sending

namespace ApiGuide
namespace Service

/-! ### Origins in the variable -/

/-- An origin in a list is an entry without the blanks around it. -/
theorem Settings.mem_origins_iff {list origin : Text} :
    origin ∈ origins list ↔ origin ≠ [] ∧ ∃ entry ∈ list.splitOn ',', entry.trim = origin := by
  unfold origins
  rw [List.mem_filter, List.mem_map, decide_eq_true_iff, and_comm]

/-- The star is among the origins where an entry is a star. -/
theorem Settings.anyOrigin_mem_iff {s : Settings} {list : Text}
    (h : s.allowedOrigins = origins list) :
    anyOrigin ∈ s.allowedOrigins ↔ ∃ entry ∈ list.splitOn ',', entry.trim = anyOrigin := by
  rw [h, mem_origins_iff]
  exact and_iff_right (by decide)

/-- **Credentials are not allowed where any origin is.** -/
theorem Settings.credentials_policy_iff {s : Settings} :
    s.policy.credentials = true ↔ anyOrigin ∉ s.allowedOrigins := by
  simp [policy, allowsCredentials, allowsAnyOrigin]

variable {F : Framework} {s : Service} {r : Request}

/-! ### The refusal -/

/-- The refusal says how a key is to be sent, and tells about its body. -/
theorem name_mem_of_refusal (hrender : F.RendersValues) {response : Response}
    (h : F.refusal = .ok response) {field : Text × Text} (hfield : field ∈ response.headers) :
    field.1 ∈ Text.ofString "www-authenticate" :: contentHeaders := by
  rcases (hrender.kept h).2.2 field hfield with hgiven | hcontent
  · obtain rfl := List.mem_singleton.1 hgiven
    exact List.mem_cons_self
  · exact List.mem_cons_of_mem _ hcontent

/-- No header of the refusal is about other sites. -/
theorem unmarked_of_refusal (hrender : F.RendersValues) {response : Response}
    (h : F.refusal = .ok response) :
    ∀ field ∈ response.headers, isForSites field.1 = false ∧ field.1 ≠ "vary" := by
  have hnames : ∀ name ∈ Text.ofString "www-authenticate" :: contentHeaders,
      isForSites name = false ∧ name ≠ "vary" := by
    decide
  exact fun field hfield => hnames field.1 (name_mem_of_refusal hrender h hfield)

/-! ### Responses -/

/-- **What an answer grants keeps to the policy**, on every way. -/
theorem grants_of_answer (hgrant : F.GrantsByPolicy) (hrender : F.RendersValues)
    (hplain : F.AnswersPlainly) {response : Response} (h : F.answer s r = .ok response) :
    F.Grants s.settings.policy r response.headers := by
  generalize houtcome : F.answer s r = outcome at h
  cases houtcome ▸ Framework.way_answer F s r with
  | unaddressed => cases h
  | refused =>
    exact Framework.grants_of_unmarked fun field hfield =>
      (unmarked_of_refusal hrender h field hfield).1
  | crossed _ hcrossing =>
    obtain rfl := Except.ok.inj h
    exact hgrant.answered hcrossing
  | answered _ hcrossing hroute =>
    obtain ⟨own, rfl, rfl⟩ := exists_of_map_eq_ok h
    exact hgrant.passed hcrossing (hplain.route hroute).unmarked
  | served _ hcrossing =>
    obtain ⟨served, hserve, rfl⟩ := exists_of_map_eq_ok h
    exact hgrant.passed hcrossing (isPlain_of_serve hrender hplain hserve).unmarked

/-- **What a response grants keeps to the policy.** -/
theorem grants_respond (hgrant : F.GrantsByPolicy) (hrender : F.RendersValues)
    (hplain : F.AnswersPlainly) (s : Service) (r : Request) :
    F.Grants s.settings.policy r (F.respond s r).headers := by
  unfold Framework.respond
  cases hanswer : F.answer s r with
  | error fault => exact Framework.grants_of_unmarked hplain.failed.2
  | ok response => exact grants_of_answer hgrant hrender hplain hanswer

/-- An origin that is named is that of the request, and is on the list or a star is. -/
theorem listed_of_grants (hcompare : F.ComparesOrigins) {headers : Headers}
    (h : F.Grants s.settings.policy r headers) {value : Text}
    (hmem : (allowOrigin, value) ∈ headers) (hne : value ≠ Settings.anyOrigin) :
    r.header? "origin" = some value ∧
      (Settings.anyOrigin ∈ s.settings.allowedOrigins ∨ value ∈ s.settings.allowedOrigins) := by
  rcases h.origin value hmem with ⟨hstar, -⟩ | ⟨hsite, hany | hlisted⟩
  · exact absurd hstar hne
  · exact ⟨hsite, Or.inl (hcompare.allowsAny_iff.1 hany)⟩
  · exact ⟨hsite, Or.inr (hcompare.isListed_iff.1 hlisted)⟩

/-- Where a star is named, a star is on the list. -/
theorem anyOrigin_mem_of_grants (hcompare : F.ComparesOrigins) {headers : Headers}
    (h : F.Grants s.settings.policy r headers)
    (hmem : (allowOrigin, Settings.anyOrigin) ∈ headers) :
    Settings.anyOrigin ∈ s.settings.allowedOrigins := by
  rcases h.origin _ hmem with ⟨-, hany⟩ | ⟨-, hany | hlisted⟩
  · exact hcompare.allowsAny_iff.1 hany
  · exact hcompare.allowsAny_iff.1 hany
  · exact hcompare.isListed_iff.1 hlisted

/-- Where a star is on the list, credentials are not allowed. -/
theorem not_mem_credentials_of_grants {headers : Headers}
    (h : F.Grants s.settings.policy r headers)
    (hstar : Settings.anyOrigin ∈ s.settings.allowedOrigins) (value : Text) :
    (allowCredentials, value) ∉ headers :=
  fun hmem => Settings.credentials_policy_iff.1 (h.credentials value hmem) hstar

/-- **Other sites are granted what is listed and no more.** Whatever the variable for the
origins holds and whatever is asked for: a response that allows any origin allows no
credentials; one that allows an origin by name allows that of the request, and it is an
entry of the variable, blanks apart, or an entry is a star, and then there are no
credentials; and what the guard refuses, which is all that has the status 401, is told
nothing about other sites. -/
theorem respond_grants_only_listed {F : Framework} (hcompare : F.ComparesOrigins)
    (hgrant : F.GrantsByPolicy) (hpreflight : F.AnswersPreflights) (hrender : F.RendersValues)
    (hplain : F.AnswersPlainly) {environment : Table Text} {tree : Tree} {depth : Nat}
    {service : Service} {log : List LogEntry}
    (hstart : start environment tree depth = .ok (service, log)) :
    ∃ list, SystemText.shown ((environment.get? "ALLOWED_ORIGINS").getD "http://localhost") =
        .ok list ∧ ∀ r : Request,
      ((allowOrigin, Settings.anyOrigin) ∈ (F.respond service r).headers →
        ∀ v, (allowCredentials, v) ∉ (F.respond service r).headers) ∧
      (∀ value, (allowOrigin, value) ∈ (F.respond service r).headers →
        value ≠ Settings.anyOrigin →
        r.header? "origin" = some value ∧
        ((∃ entry ∈ list.splitOn ',', entry.trim = value) ∨
          ∃ entry ∈ list.splitOn ',', entry.trim = Settings.anyOrigin) ∧
        ((∃ entry ∈ list.splitOn ',', entry.trim = Settings.anyOrigin) →
          ∀ v, (allowCredentials, v) ∉ (F.respond service r).headers)) ∧
      ((F.respond service r).status = 401 ↔ F.Refuses service.settings r) ∧
      ((F.respond service r).status = 401 →
        ∀ field ∈ (F.respond service r).headers,
          isForSites field.1 = false ∧ field.1 ≠ "vary") := by
  obtain ⟨list, hlist, horigins⟩ := Settings.shown_origins (ofEnvironment_of_start hstart)
  refine ⟨list, hlist, fun r => ?_⟩
  have hgrants := grants_respond hgrant hrender hplain service r
  have hstar := Settings.anyOrigin_mem_iff horigins
  have hrefused : (F.respond service r).status = 401 ↔ F.Refuses service.settings r :=
    status_respond_eq_refused_iff hrender hpreflight hplain
  refine ⟨fun hmem => ?_, fun value hmem hne => ?_, hrefused, fun hstatus => ?_⟩
  · exact not_mem_credentials_of_grants hgrants (anyOrigin_mem_of_grants hcompare hgrants hmem)
  · obtain ⟨hsite, hallowed⟩ := listed_of_grants hcompare hgrants hmem hne
    refine ⟨hsite, ?_, fun hany => not_mem_credentials_of_grants hgrants (hstar.2 hany)⟩
    rcases hallowed with hany | hlisted
    · exact Or.inr (hstar.1 hany)
    · rw [horigins] at hlisted
      exact Or.inl (Settings.mem_origins_iff.1 hlisted).2
  · obtain ⟨response, hrefusal⟩ := Framework.exists_refusal hrender
    unfold Framework.respond
    rw [Framework.answer_of_refuses (hrefused.1 hstatus), hrefusal]
    exact unmarked_of_refusal hrender hrefusal

/-- An environment in which a star is hidden among the origins. -/
def starred : Table Text := ⟨[("ALLOWED_ORIGINS", "http://a.org, \t* ")], by decide⟩

/-- A request of a site that is not listed, with a cookie. -/
def cookieRequest : Request :=
  ⟨"GET", "testserver", "/", [], [("Origin", "http://b.org"), ("Cookie", "a=b")], []⟩

/-- A site that is not listed is allowed by name, without credentials. -/
theorem respond_grants_only_listed_starred :
    ∃ service log, start starred ⟨[], [], []⟩ = .ok (service, log) ∧
      (allowOrigin, ↑"http://b.org") ∈
        ((Stock.framework 1000).respond service cookieRequest).headers ∧
      ∀ v, (allowCredentials, v) ∉
        ((Stock.framework 1000).respond service cookieRequest).headers := by
  have hmem : (start starred ⟨[], [], []⟩).toOption.any (fun started => decide
      ((allowOrigin, ↑"http://b.org") ∈
        ((Stock.framework 1000).respond started.1 cookieRequest).headers)) = true := by
    decide +kernel
  cases hstart : start starred ⟨[], [], []⟩ with
  | error fault =>
    rw [hstart] at hmem
    exact absurd hmem Bool.false_ne_true
  | ok started =>
    obtain ⟨service, log⟩ := started
    rw [hstart] at hmem
    have hgranted := of_decide_eq_true hmem
    obtain ⟨list, hlist, hrespond⟩ := respond_grants_only_listed
      (Stock.CrossOrigin.comparesOrigins 1000) (Stock.CrossOrigin.grantsByPolicy 1000)
      (Stock.CrossOrigin.answersPreflights 1000) (Stock.rendersValues 1000)
      (Stock.answersPlainly 1000) hstart
    have hshown : SystemText.ofOctets (SystemText.octets "http://a.org, \t* ") =
        Text.ofString "http://a.org, \t* " := by decide +kernel
    obtain rfl := hshown.symm.trans (Except.ok.inj hlist)
    obtain ⟨-, hnamed, -⟩ := hrespond cookieRequest
    exact ⟨service, log, rfl, hgranted,
      (hnamed _ hgranted (by decide)).2.2 ⟨" \t* ", by decide, by decide⟩⟩

end Service
end ApiGuide
