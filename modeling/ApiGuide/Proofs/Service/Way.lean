/-
# Where requests get to

A request takes one of five ways through a service (`way_answer`):

| way | outcome |
| --- | --- |
| the guard looks at it, and its address is at fault | the fault |
| the guard refuses it | the refusal |
| the rules for other sites answer it | their response |
| the framework answers it on its own | its answer, with headers completed |
| it reaches an endpoint | that of the endpoint, with headers completed |

So two services with the same settings differ only in what the endpoints answer
(`answer_congr`), and a request fails only where the framework does or where the endpoint
does that it reaches (`fails_answer_iff`).
-/

import ApiGuide.Proofs.Service.Framework

namespace ApiGuide
namespace Service

/-- An outcome that is no response. -/
def Fails (outcome : Outcome) : Prop := ∃ fault, outcome = .error fault

/-- A response is no fault. -/
theorem not_fails_ok {response : Response} : ¬ Fails (.ok response) := by
  rintro ⟨fault, h⟩
  cases h

/-- Completing the headers of a response neither makes nor mends a fault. -/
theorem fails_map_iff {outcome : Outcome} {f : Response → Response} :
    Fails (outcome.map f) ↔ Fails outcome := by
  cases outcome with
  | ok response => exact iff_of_false not_fails_ok not_fails_ok
  | error fault => exact iff_of_true ⟨fault, rfl⟩ ⟨fault, rfl⟩

/-- A response whose headers were completed comes from one before. -/
theorem exists_of_map_eq_ok {outcome : Outcome} {f : Response → Response} {response : Response}
    (h : outcome.map f = .ok response) : ∃ inner, outcome = .ok inner ∧ response = f inner := by
  cases outcome with
  | ok inner => exact ⟨inner, rfl, (Except.ok.inj h).symm⟩
  | error fault => cases h

namespace Framework

variable (F : Framework)

/-! ### The guard -/

/-- The guard lets a request through. -/
def Passes (s : Settings) (r : Request) : Prop :=
  Guard.isExempt s r = true ∨ ∃ path, F.address r = .ok path ∧ Guard.admits s r path = true

/-- The guard looks at a request and does not let it through. -/
structure Refuses (s : Settings) (r : Request) : Prop where
  looked : Guard.isExempt s r = false
  refused : ∃ path, F.address r = .ok path ∧ Guard.admits s r path = false

/-- **The guard has three outcomes**: there may be no path to look at. -/
theorem guard_cases (F : Framework) (s : Settings) (r : Request) :
    F.Passes s r ∨ F.Refuses s r ∨
      (Guard.isExempt s r = false ∧ ∃ fault, F.address r = .error fault) := by
  cases hexempt : Guard.isExempt s r with
  | true => exact Or.inl (Or.inl hexempt)
  | false =>
    cases haddress : F.address r with
    | error fault => exact Or.inr (Or.inr ⟨rfl, fault, rfl⟩)
    | ok path =>
      cases hadmits : Guard.admits s r path with
      | true => exact Or.inl (Or.inr ⟨path, haddress, hadmits⟩)
      | false => exact Or.inr (Or.inl ⟨hexempt, path, haddress, hadmits⟩)

variable {F} {s s' : Service} {r : Request}

/-- What passes the guard goes on to the rules for other sites. -/
theorem answer_of_passes (h : F.Passes s.settings r) : F.answer s r = F.crossed s r := by
  unfold answer
  rcases h with hexempt | ⟨path, haddress, hadmits⟩
  · rw [if_pos hexempt]
  · rw [haddress]
    simp only [hadmits, if_true, ite_self]

/-- What the guard refuses gets the refusal. -/
theorem answer_of_refuses (h : F.Refuses s.settings r) : F.answer s r = F.refusal := by
  obtain ⟨hlooked, path, haddress, hnot⟩ := h
  unfold answer
  rw [hlooked, haddress]
  simp only [hnot, Bool.false_eq_true, if_false]

/-- Where there is no path to look at there is a fault. -/
theorem answer_of_address {fault : Fault} (hlooked : Guard.isExempt s.settings r = false)
    (haddress : F.address r = .error fault) : F.answer s r = .error fault := by
  unfold answer
  rw [hlooked, haddress]
  rfl

/-! ### Endpoints -/

/-- A request that gets to an endpoint. -/
structure Reaches (F : Framework) (s : Settings) (r : Request) (e : Endpoint) : Prop where
  passes : F.Passes s r
  crosses : ∃ complete, F.crossing s.policy r = .passed complete
  routes : F.route s.pages r = .given e

/-- Completes the headers of a response. -/
def completed (complete : Headers → Headers) (response : Response) : Response :=
  { response with headers := complete response.headers }

/-- **What reaches an endpoint gets the answer of the endpoint**, with headers completed. -/
theorem exists_answer_of_reaches {e : Endpoint} (h : F.Reaches s.settings r e) :
    ∃ complete, F.crossing s.settings.policy r = .passed complete ∧
      F.answer s r = (F.serve s r e).map (completed complete) := by
  obtain ⟨complete, hcrossing⟩ := h.crosses
  refine ⟨complete, hcrossing, ?_⟩
  rw [answer_of_passes h.passes]
  unfold crossed routed
  rw [hcrossing, h.routes]
  rfl

/-! ### Ways -/

/-- The ways of a request, each with its outcome. -/
inductive Way (F : Framework) (s : Service) (r : Request) : Outcome → Prop where
  /-- The guard looks at the request, and its address is at fault. -/
  | unaddressed {fault : Fault} (looked : Guard.isExempt s.settings r = false)
      (address : F.address r = .error fault) : Way F s r (.error fault)
  /-- The guard does not let the request through. -/
  | refused (refuses : F.Refuses s.settings r) : Way F s r F.refusal
  /-- The rules for other sites answer the request. -/
  | crossed {response : Response} (passes : F.Passes s.settings r)
      (crossing : F.crossing s.settings.policy r = .answered response) :
      Way F s r (.ok response)
  /-- The framework answers the request on its own. -/
  | answered {complete : Headers → Headers} {own : Outcome} (passes : F.Passes s.settings r)
      (crossing : F.crossing s.settings.policy r = .passed complete)
      (route : F.route s.settings.pages r = .answered own) :
      Way F s r (own.map (completed complete))
  /-- The request gets to an endpoint. -/
  | served {complete : Headers → Headers} {e : Endpoint} (reaches : F.Reaches s.settings r e)
      (crossing : F.crossing s.settings.policy r = .passed complete) :
      Way F s r ((F.serve s r e).map (completed complete))

/-- Behind the guard there are three ways. -/
theorem way_crossed (hpasses : F.Passes s.settings r) : F.Way s r (F.crossed s r) := by
  unfold Framework.crossed
  cases hcrossing : F.crossing s.settings.policy r with
  | answered response => exact .crossed hpasses hcrossing
  | passed complete =>
    unfold routed
    cases hroute : F.route s.settings.pages r with
    | answered own => exact .answered hpasses hcrossing hroute
    | given e => exact .served ⟨hpasses, ⟨complete, hcrossing⟩, hroute⟩ hcrossing

/-- **A request takes one of five ways.** -/
theorem way_answer (F : Framework) (s : Service) (r : Request) : F.Way s r (F.answer s r) := by
  rcases F.guard_cases s.settings r with hpasses | hrefuses | ⟨hlooked, fault, haddress⟩
  · rw [answer_of_passes hpasses]
    exact way_crossed hpasses
  · rw [answer_of_refuses hrefuses]
    exact .refused hrefuses
  · rw [answer_of_address hlooked haddress]
    exact .unaddressed hlooked haddress

/-! ### Two services -/

/-- Behind the guard only the endpoint that is reached can make a difference. -/
theorem crossed_congr (hsettings : s'.settings = s.settings) (hpasses : F.Passes s.settings r)
    (h : ∀ e, F.Reaches s.settings r e → F.serve s' r e = F.serve s r e) :
    F.crossed s' r = F.crossed s r := by
  unfold crossed routed
  rw [hsettings]
  cases hcrossing : F.crossing s.settings.policy r with
  | answered response => rfl
  | passed complete =>
    cases hroute : F.route s.settings.pages r with
    | answered own => rfl
    | given e =>
      exact congrArg (Except.map (completed complete)) (h e ⟨hpasses, ⟨_, hcrossing⟩, hroute⟩)

/-- **Services with the same settings give the same answers** where the endpoint that is
reached does. -/
theorem answer_congr (hsettings : s'.settings = s.settings)
    (h : ∀ e, F.Reaches s.settings r e → F.serve s' r e = F.serve s r e) :
    F.answer s' r = F.answer s r := by
  rcases F.guard_cases s.settings r with hpasses | hrefuses | ⟨hlooked, fault, haddress⟩
  · rw [answer_of_passes hpasses, answer_of_passes (hsettings ▸ hpasses)]
    exact crossed_congr hsettings hpasses h
  · rw [answer_of_refuses hrefuses, answer_of_refuses (hsettings ▸ hrefuses)]
  · rw [answer_of_address hlooked haddress, answer_of_address (hsettings ▸ hlooked) haddress]

/-! ### Faults -/

/-- The framework has a fault of its own for a request, before an endpoint is reached. -/
inductive FailsOnTheWay (F : Framework) (s : Settings) (r : Request) : Prop where
  /-- The guard looks at the address, and there is something wrong with it. -/
  | address {fault : Fault} (looked : Guard.isExempt s r = false)
      (address : F.address r = .error fault)
  /-- The framework answers on its own, with a fault. -/
  | route {complete : Headers → Headers} {fault : Fault} (passes : F.Passes s r)
      (crossing : F.crossing s.policy r = .passed complete)
      (route : F.route s.pages r = .answered (.error fault))

/-- A fault on the way leaves the request without an answer. -/
theorem FailsOnTheWay.fails_answer (h : F.FailsOnTheWay s.settings r) :
    Fails (F.answer s r) := by
  cases h with
  | @address fault hlooked haddress => exact ⟨fault, answer_of_address hlooked haddress⟩
  | @route complete fault hpasses hcrossing hroute =>
    refine ⟨fault, ?_⟩
    rw [answer_of_passes hpasses]
    unfold crossed routed
    rw [hcrossing, hroute]
    rfl

/-- The refusal of the guard is always told. -/
theorem exists_refusal (hrender : F.RendersValues) : ∃ response, F.refusal = .ok response :=
  exists_refuse hrender 401 _ (Text.surrogateFree_ofString "invalid or missing API key")

/-- **There is no answer** where the framework has none before an endpoint is reached, or
where the endpoint has none. -/
theorem fails_answer_iff (hrender : F.RendersValues) :
    Fails (F.answer s r) ↔
      F.FailsOnTheWay s.settings r ∨ ∃ e, F.Reaches s.settings r e ∧ Fails (F.serve s r e) := by
  constructor
  · intro hfails
    generalize houtcome : F.answer s r = outcome at hfails
    cases houtcome ▸ way_answer F s r with
    | unaddressed hlooked haddress => exact Or.inl (.address hlooked haddress)
    | refused hrefuses =>
      obtain ⟨response, hrefusal⟩ := exists_refusal hrender
      exact absurd (hrefusal ▸ hfails) not_fails_ok
    | crossed hpasses hcrossing => exact absurd hfails not_fails_ok
    | answered hpasses hcrossing hroute =>
      obtain ⟨fault, rfl⟩ := fails_map_iff.1 hfails
      exact Or.inl (.route hpasses hcrossing hroute)
    | served hreaches hcrossing => exact Or.inr ⟨_, hreaches, fails_map_iff.1 hfails⟩
  · rintro (hway | ⟨e, hreaches, hserve⟩)
    · exact hway.fails_answer
    · obtain ⟨complete, -, hanswer⟩ := exists_answer_of_reaches hreaches
      rw [hanswer]
      exact fails_map_iff.2 hserve

end Framework
end Service
end ApiGuide
