/-
# When a request fails

A request fails, with the status 500, where its answer is a fault instead. A *sound*
service, one whose texts hold no surrogates and whose counts can be written, sends all that
it has to send; so there are four things that a request can fail on (`respond_fails_iff`):

| request | fault |
| --- | --- |
| on its way to an endpoint | one that the framework has on its own |
| for the state of the service | its port is no number |
| for help at a position | one that the framework has when it reads the position |
| for the parameters of a signature | one that the framework has when it reads the signature |

All other requests get an answer with one of seven statuses. Only the second fault is one of
the service, and it keeps every request for the state from an answer
(`respond_fails_of_port`).
-/

import ApiGuide.Proofs.Guide.Sending
import ApiGuide.Proofs.Service.Export
import ApiGuide.Proofs.Service.Port
import ApiGuide.Proofs.Service.Status

namespace ApiGuide
namespace Service

/-! ### Sound services -/

/-- Counts that can be written. -/
structure CanBeWritten (counts : Counts) : Prop where
  classes : Json.IsWritable counts.classes
  methods : Json.IsWritable counts.methods
  properties : Json.IsWritable counts.properties

/-- A service that can tell all it has to tell, its port apart. -/
structure IsSound (s : Service) : Prop where
  guide : s.guide.SurrogateFree
  counts : CanBeWritten s.guide.counts
  catalogPath : s.settings.catalogPath.text.SurrogateFree
  allowedOrigins : ∀ origin ∈ s.settings.allowedOrigins, origin.SurrogateFree
  language : s.settings.language.SurrogateFree

variable {F : Framework} {s : Service} {r : Request} {depth : Nat}

/-- Texts can be sent if each of them can. -/
theorem canBeSent_texts {list : List Text} (h : ∀ t ∈ list, t.SurrogateFree) :
    CanBeSent (depth + 1) (texts list) := by
  refine canBeSent_array.2 fun v hv => ?_
  obtain ⟨t, ht, rfl⟩ := List.mem_map.1 hv
  exact canBeSent_string.2 (h t ht)

/-- Counts can be sent if they can be written. -/
theorem canBeSent_countsToJson {counts : Counts} (h : CanBeWritten counts) :
    CanBeSent (depth + 1) (Catalog.countsToJson counts) := by
  simp [Catalog.countsToJson, h.classes, h.methods, h.properties]

/-- What may be null can be sent if it can be where it is not. -/
theorem canBeSent_orNull {α : Type} {toJson : α → Json} {a? : Option α}
    (h : ∀ a ∈ a?, CanBeSent depth (toJson a)) : CanBeSent depth (orNull toJson a?) := by
  cases a? with
  | none => exact canBeSent_null
  | some a => exact h a rfl

/-- **The state of a sound service can be sent** with a port that was read. -/
theorem IsSound.canBeSent_health (h : s.IsSound) {t : Text} {port : Int}
    (hport : Port.ofText t = .ok port) : CanBeSent (depth + 2) (health s port) := by
  have hstatus : (if s.guide.ready then "ok" else "error" : Text).SurrogateFree := by
    split <;> exact Text.surrogateFree_ofString _
  have hmessage : (if s.guide.ready then s.guide.apiName ++ " API Ready"
      else "Failed to load " ++ s.guide.apiName ++ " API definition file" :
        Text).SurrogateFree := by
    split <;> simp [h.guide.apiName]
  have hfailure : ∀ t ∈ s.guide.failure?.map (·.message), t.SurrogateFree := by
    intro t ht
    obtain ⟨failure, hfailure, rfl⟩ := Option.map_eq_some_iff.1 ht
    exact h.guide.failure failure hfailure
  have hcounts : CanBeSent (depth + 1) (Catalog.countsToJson s.guide.counts) :=
    canBeSent_countsToJson h.counts
  have hnumber : Json.IsWritable port := Port.isWritable_of_ofText hport
  unfold health
  simp only [canBeSent_object, List.forall_mem_append, forall_mem_entry, canBeSent_string,
    Text.surrogateFree_ofString, hstatus, hmessage, hcounts, h.catalogPath, canBeSent_integer,
    hnumber, canBeSent_texts h.allowedOrigins, canBeSent_bool, true_and]
  exact canBeSent_textMember (Text.surrogateFree_ofString "error") hfailure

/-- **What an editor may ask for can be sent** by a sound service. -/
theorem IsSound.canBeSent_capabilities (h : s.IsSound) :
    CanBeSent (depth + 3) (capabilities s) := by
  have htriggers : ∀ list : List Text, (∀ t ∈ list, t.SurrogateFree) →
      CanBeSent (depth + 2) (if s.guide.ready then triggers list else .null) := by
    intro list hlist
    split
    · simp [triggers, Json.entry, canBeSent_texts hlist]
    · exact canBeSent_null
  have hcompletion := htriggers ["."] (by decide)
  have hsignature := htriggers ["(", ","] (by decide)
  unfold capabilities
  simp only [canBeSent_object, List.forall_mem_append, forall_mem_entry, canBeSent_string,
    Text.surrogateFree_ofString, h.language, hcompletion, hsignature, canBeSent_bool, true_and]

/-- A parameter of a signature without surrogates can be sent. -/
theorem canBeSent_parameterToJson {p : Parameter} {t : Text} (hp : p.PartOf t)
    (ht : t.SurrogateFree) : CanBeSent (depth + 1) (parameterToJson p) := by
  obtain ⟨hname, htype, hdefault⟩ := hp.surrogateFree ht
  unfold parameterToJson
  simp only [canBeSent_object, List.forall_mem_append, forall_mem_entry, canBeSent_string,
    Text.surrogateFree_ofString, hname, true_and]
  exact ⟨canBeSent_textMember (Text.surrogateFree_ofString "type") htype,
    canBeSent_textMember (Text.surrogateFree_ofString "default") hdefault⟩

/-- **The parameters of a signature without surrogates can be sent.** -/
theorem canBeSent_parameters {raw : Text} (h : raw.SurrogateFree) :
    CanBeSent (depth + 2) (.array ((Signature.parameters raw).map parameterToJson)) := by
  refine canBeSent_array.2 fun v hv => ?_
  obtain ⟨p, hp, rfl⟩ := List.mem_map.1 hv
  exact canBeSent_parameterToJson (Signature.partOf_parameters hp) h

/-! ### Endpoints that fail -/

/-- What is sent does not fail if it can be sent. -/
theorem not_fails_send (hencode : F.EncodesByParts) (hrender : F.RendersValues) {v : Json}
    (h : CanBeSent sentDepth v) : ¬ Fails (F.send v) := by
  obtain ⟨response, hsend⟩ := Framework.exists_send hencode hrender h
  rw [hsend]
  exact not_fails_ok

/-- Where the handler has no fault, one comes from what is taken out of the request first. -/
theorem fails_andThen_iff {α : Type} {taken : Taken α} {handle : α → Outcome}
    (h : ∀ a, taken = .given a → ¬ Fails (handle a)) :
    Fails (Framework.andThen taken handle) ↔ ∃ fault, taken = .answered (.error fault) := by
  cases taken with
  | given a => exact iff_of_false (h a rfl) nofun
  | answered own =>
    constructor
    · rintro ⟨fault, hown⟩
      exact ⟨fault, congrArg Taken.answered hown⟩
    · rintro ⟨fault, hown⟩
      exact ⟨fault, Taken.answered.inj hown⟩

/-- Whether an endpoint asks for a position. -/
def Endpoint.takesPosition : Endpoint → Bool
  | .completion => true
  | .signatureHelp => true
  | .hover => true
  | _ => false

/-- What an endpoint of a sound service fails on. -/
inductive FailsAt (F : Framework) (s : Settings) (r : Request) : Endpoint → Prop where
  /-- The port is no number. -/
  | port {fault : Port.Fault} (port : Port.ofText s.port = .error fault) : FailsAt F s r .health
  /-- The framework has a fault when it reads the position. -/
  | position {e : Endpoint} {fault : Fault} (takes : e.takesPosition = true)
      (own : F.position r = .answered (.error fault)) : FailsAt F s r e
  /-- The framework has a fault when it reads the signature. -/
  | signature {fault : Fault} (own : F.signature r = .answered (.error fault)) :
      FailsAt F s r .signature

/-- An endpoint that asks for nothing, and not for the port either, fails on nothing. -/
theorem not_failsAt {settings : Settings} {e : Endpoint} (hhealth : e ≠ .health)
    (hsignature : e ≠ .signature) (htakes : e.takesPosition = false) :
    ¬ FailsAt F settings r e := by
  intro h
  cases h with
  | port => exact hhealth rfl
  | position hposition =>
    rw [htakes] at hposition
    cases hposition
  | signature => exact hsignature rfl

/-- **A class of a sound service is always answered**, be it known or not. -/
theorem IsSound.not_fails_class (h : s.IsSound) (hencode : F.EncodesByParts)
    (hrender : F.RendersValues) (name : Text) : ¬ Fails (F.serve s r (.classNamed name)) := by
  simp only [Framework.serve]
  cases hget : s.guide.catalog?.bind (·.get? name) with
  | none =>
    obtain ⟨response, hrefuse⟩ := Framework.exists_refuse hrender 404 []
      (Text.surrogateFree_ofString "classe não encontrada")
    simp only [hrefuse]
    exact not_fails_ok
  | some c =>
    obtain ⟨catalog, hcatalog, hc⟩ := Option.bind_eq_some_iff.1 hget
    obtain ⟨hname, hclass⟩ := (h.guide.catalog catalog hcatalog).of_get? hc
    exact not_fails_send hencode hrender (Catalog.canBeSent_classToJson hname hclass)

/-- **An endpoint of a sound service fails** only on its port, or where the framework does. -/
theorem IsSound.fails_serve_iff (h : s.IsSound) (hencode : F.EncodesByParts)
    (hrender : F.RendersValues) (hqueries : F.DecodesQueries)
    (htext : ∀ p, F.position r = .given p → Json.IsWritable p.text.length) {e : Endpoint} :
    Fails (F.serve s r e) ↔ FailsAt F s.settings r e := by
  have hsend : ∀ {v : Json}, CanBeSent sentDepth v → ¬ Fails (F.send v) :=
    not_fails_send hencode hrender
  -- The three endpoints that ask for a position differ only in the help that they send.
  have hposition : ∀ {e : Endpoint}, e.takesPosition = true → ∀ {help : Position → Json},
      (∀ p, F.position r = .given p → CanBeSent sentDepth (help p)) →
        (Fails (Framework.andThen (F.position r) fun p => F.send (help p)) ↔
          FailsAt F s.settings r e) := by
    intro e htakes help hhelp
    rw [fails_andThen_iff fun p hp => hsend (hhelp p hp)]
    constructor
    · rintro ⟨fault, hown⟩
      exact .position htakes hown
    · rintro (_ | ⟨-, hown⟩ | _)
      · cases htakes
      · exact ⟨_, hown⟩
      · cases htakes
  cases e with
  | health =>
    simp only [Framework.serve]
    cases hport : Port.ofText s.settings.port with
    | error fault => exact iff_of_true ⟨_, rfl⟩ (.port hport)
    | ok port =>
      refine iff_of_false (hsend (h.canBeSent_health hport)) ?_
      rintro (hfault | ⟨htakes, -⟩)
      · rw [hport] at hfault
        cases hfault
      · cases htakes
  | info =>
    exact iff_of_false (hsend (canBeSent_countsToJson h.counts))
      (not_failsAt (by simp) (by simp) rfl)
  | capabilities =>
    exact iff_of_false (hsend h.canBeSent_capabilities) (not_failsAt (by simp) (by simp) rfl)
  | classNamed name =>
    exact iff_of_false (h.not_fails_class hencode hrender name)
      (not_failsAt (by simp) (by simp) rfl)
  | signature =>
    have hhandle : ∀ raw, F.signature r = .given raw →
        ¬ Fails (F.send (.array ((Signature.parameters raw).map parameterToJson))) :=
      fun raw hraw => hsend (canBeSent_parameters (hqueries.signature hraw))
    simp only [Framework.serve]
    rw [fails_andThen_iff hhandle]
    constructor
    · rintro ⟨fault, hown⟩
      exact .signature hown
    · rintro (_ | ⟨htakes, -⟩ | hown)
      · cases htakes
      · exact ⟨_, hown⟩
  | completion =>
    exact hposition rfl fun p _ => h.guide.canBeSent_complete p.text p.line p.character
  | signatureHelp =>
    exact hposition rfl fun p hp =>
      canBeSent_orNull
        (h.guide.canBeSent_signatureHelp? p.text (htext p hp) p.line p.character)
  | hover =>
    exact hposition rfl fun p _ =>
      canBeSent_orNull (h.guide.canBeSent_hover? p.text p.line p.character)

/-! ### What fails and what does not -/

/-- A request that the framework fails on before an endpoint is reached, or the endpoint. -/
inductive FailsOn (F : Framework) (s : Settings) (r : Request) : Prop where
  /-- The framework has a fault of its own on the way. -/
  | onTheWay (fault : F.FailsOnTheWay s r)
  /-- The endpoint has a fault. -/
  | atEndpoint {e : Endpoint} (reaches : F.Reaches s r e) (fault : FailsAt F s r e)

/-- **A sound service fails on no request** but for a fault of the framework, or for its
state if its port is no number; and it gives every other request an answer with one of seven
statuses. A text that a request brings is not so long that its length could not be written. -/
theorem respond_fails_iff {F : Framework} (hencode : F.EncodesByParts)
    (hrender : F.RendersValues) (hpreflight : F.AnswersPreflights) (hplain : F.AnswersPlainly)
    (hqueries : F.DecodesQueries) {s : Service} (h : s.IsSound) (r : Request)
    (htext : ∀ p, F.position r = .given p → Json.IsWritable p.text.length) :
    ((F.respond s r).status = 500 ↔ FailsOn F s.settings r) ∧
      (¬ FailsOn F s.settings r → (F.respond s r).status ∈ statuses) := by
  have hfails : Fails (F.answer s r) ↔ FailsOn F s.settings r := by
    rw [Framework.fails_answer_iff hrender]
    constructor
    · rintro (hway | ⟨e, hreaches, hserve⟩)
      · exact .onTheWay hway
      · exact .atEndpoint hreaches ((h.fails_serve_iff hencode hrender hqueries htext).1 hserve)
    · rintro (hway | ⟨hreaches, hfault⟩)
      · exact Or.inl hway
      · exact Or.inr ⟨_, hreaches, (h.fails_serve_iff hencode hrender hqueries htext).2 hfault⟩
  refine ⟨(status_respond_eq_failed_iff hrender hpreflight hplain).trans hfails, fun hnot => ?_⟩
  unfold Framework.respond
  cases hanswer : F.answer s r with
  | ok response => exact status_of_answer hrender hpreflight hplain hanswer
  | error fault => exact absurd (hfails.1 ⟨fault, hanswer⟩) hnot

/-- A request for help whose line is not defined. -/
def undefinedLine : Request :=
  ⟨"POST", "testserver", "/completion", [], [],
    Utf8.encode "\x7b\"text\": \"\", \"line\": NaN, \"character\": 0\x7d"⟩

/-- There are no surrogates in the service, and its counts are small. -/
theorem isSound_storeService : storeService.IsSound := by
  have hshelf : shelf.SurrogateFree := ⟨by decide, by decide, by decide, by decide⟩
  have hbox : box.SurrogateFree := ⟨by decide, by decide, by decide, by decide⟩
  have hcounts : CanBeWritten storeService.guide.counts :=
    ⟨Json.isWritable_of_lt_ten (by decide), Json.isWritable_of_lt_ten (by decide),
      Json.isWritable_of_lt_ten (by decide)⟩
  refine ⟨⟨by decide, fun catalog hcatalog => ?_, fun failure hfailure => ?_⟩, hcounts,
    by decide, by decide, by decide⟩
  · obtain rfl := Option.some.inj hcatalog
    exact List.forall_mem_cons.2 ⟨⟨by decide, hshelf⟩, List.forall_mem_singleton.2
      ⟨by decide, hbox⟩⟩
  · exact absurd hfailure (Option.not_mem_none failure)

/-- The stock framework cannot repeat a line that is not defined. -/
theorem position_undefinedLine :
    ∃ fault, (Stock.framework 1000).position undefinedLine = .answered (.error fault) := by
  have hfaulty : (match (Stock.framework 1000).position undefinedLine with
      | .answered (.error _) => true
      | _ => false) = true := by
    decide +kernel
  split at hfaulty
  · rename_i fault hposition
    exact ⟨fault, hposition⟩
  · exact absurd hfaulty Bool.false_ne_true

/-- A request with a line that is not defined fails; a request for a class is answered. -/
theorem respond_fails_iff_undefinedLine :
    storeService.IsSound ∧
      ((Stock.framework 1000).respond storeService undefinedLine).status = 500 ∧
      ((Stock.framework 1000).respond storeService (classRequest "Shelf")).status ∈ statuses := by
  have hfails := respond_fails_iff (Stock.encodesByParts 1000) (Stock.rendersValues 1000)
    (Stock.CrossOrigin.answersPreflights 1000) (Stock.answersPlainly 1000)
    (Stock.decodesQueries 1000) isSound_storeService
  have hreaches : (Stock.framework 1000).Reaches storeService.settings undefinedLine
      .completion := ⟨Or.inl rfl, ⟨id, rfl⟩, rfl⟩
  have hclass : (Stock.framework 1000).route storeService.settings.pages
      (classRequest "Shelf") = .given (.classNamed "Shelf") :=
    (Stock.routesByPath 1000).given ⟨by decide, by decide⟩ rfl rfl
  obtain ⟨fault, hposition⟩ := position_undefinedLine
  refine ⟨isSound_storeService, ?_, ?_⟩
  · have htext : ∀ p, (Stock.framework 1000).position undefinedLine = .given p →
        Json.IsWritable p.text.length := by
      intro p hp
      rw [hposition] at hp
      cases hp
    exact (hfails undefinedLine htext).1.2 (.atEndpoint hreaches (.position rfl hposition))
  · have htext : ∀ p, (Stock.framework 1000).position (classRequest "Shelf") = .given p →
        Json.IsWritable p.text.length := nofun
    refine (hfails (classRequest "Shelf") htext).2 ?_
    rintro (hway | ⟨hreaches, hfault⟩)
    · cases hway with
      | address hlooked => exact absurd hlooked (by decide)
      | route _ _ hroute =>
        rw [hclass] at hroute
        cases hroute
    · obtain rfl := Taken.given.inj (hclass.symm.trans hreaches.routes)
      exact absurd hfault (not_failsAt (by simp) (by simp) rfl)

/-! ### Ports -/

/-- **Without a number for its port a service fails** on every request for its state. -/
theorem respond_fails_of_port {F : Framework} (hplain : F.AnswersPlainly) {s : Service}
    {fault : Port.Fault} (hport : Port.ofText s.settings.port = .error fault) {r : Request}
    (hreaches : F.Reaches s.settings r .health) : (F.respond s r).status = 500 := by
  obtain ⟨complete, -, hanswer⟩ := Framework.exists_answer_of_reaches hreaches
  have hserve : F.serve s r .health = .error (.port fault) := by
    simp only [Framework.serve, hport]
  unfold Framework.respond
  rw [hanswer, hserve]
  exact hplain.failed.1

/-- An environment in which the port is no number. -/
def unnumbered : Table Text := ⟨[("PORT", "abc")], by decide⟩

/-- A request for the state of the service. -/
def stateRequest : Request := ⟨"GET", "testserver", "/health", [], [], []⟩

/-- A service starts where its port is no number, and fails when it is asked for its
state. -/
theorem respond_fails_unnumbered :
    ∃ service log, start unnumbered ⟨[], [], []⟩ = .ok (service, log) ∧
      ((Stock.framework 1000).respond service stateRequest).status = 500 := by
  have hshown : (start unnumbered ⟨[], [], []⟩).toOption.map
      (fun started => (started.1.settings.port, started.1.settings.key)) =
        some (Text.ofString "abc", []) := by
    decide +kernel
  cases hstart : start unnumbered ⟨[], [], []⟩ with
  | error fault =>
    rw [hstart] at hshown
    cases hshown
  | ok started =>
    obtain ⟨service, log⟩ := started
    rw [hstart] at hshown
    obtain ⟨hport, hkey⟩ := Prod.mk.inj (Option.some.inj hshown)
    have hfault : Port.ofText service.settings.port = .error (.notInteger "abc") := by
      rw [hport]
      rfl
    have hreaches : (Stock.framework 1000).Reaches service.settings stateRequest .health :=
      ⟨Or.inl (decide_eq_true (Or.inr (Or.inr hkey))), ⟨id, rfl⟩,
        (Stock.routesByPath 1000).given trivial rfl rfl⟩
    exact ⟨service, log, rfl,
      respond_fails_of_port (Stock.answersPlainly 1000) hfault hreaches⟩

end Service
end ApiGuide
