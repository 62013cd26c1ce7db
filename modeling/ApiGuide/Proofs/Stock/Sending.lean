/-
# What the stock framework sends

The stock framework encodes a value by its parts (`encodesByParts`) and puts it into a
response if it can be sent (`rendersValues`), as it is taken for granted of a framework. What
it answers on its own is plain (`answersPlainly`), and the signature that it reads in a query
holds no surrogates, since octets that are no UTF-8 are replaced (`decodesQueries`).
-/

import ApiGuide.Proofs.Service.Framework
import ApiGuide.Proofs.Table
import ApiGuide.Stock.Framework

namespace ApiGuide
namespace Stock

open Service (CanBeSent Framework Headers IsPlain Request Response canBeSent_array canBeSent_object
  contentHeaders header isForSites isWithheld ownStatuses sentDepth)

variable {depth : Nat}

/-! ### Encoding -/

mutual

/-- **What is sent for a value that can be sent** can be sent. -/
theorem canBeSent_sendable : ∀ {depth : Nat} {v : Json}, CanBeSent depth v →
    CanBeSent depth (sendable v)
  | _, .null, h => h
  | _, .bool _, h => h
  | _, .integer _, h => h
  | _, .float _, h => h
  | _, .string _, h => h
  | 0, .array _, h => absurd h.within Bool.false_ne_true
  | 0, .object _, h => absurd h.within Bool.false_ne_true
  | _ + 1, .array items, h => by
    rw [sendable]
    exact canBeSent_array.2 (canBeSent_sendableItems (canBeSent_array.1 h))
  | _ + 1, .object entries, h => by
    rw [sendable]
    refine canBeSent_object.2 fun entry hentry => ?_
    exact canBeSent_sendableMembers (canBeSent_object.1 h) entry
      (Table.mem_of_mem_entries_ofList hentry)

/-- What is sent for some values that can be sent can be sent. -/
theorem canBeSent_sendableItems : ∀ {depth : Nat} {items : List Json},
    (∀ item ∈ items, CanBeSent depth item) → ∀ item ∈ sendableItems items, CanBeSent depth item
  | _, [], _, item, hitem => absurd hitem List.not_mem_nil
  | _, first :: rest, h, item, hitem => by
    obtain ⟨hfirst, hrest⟩ := List.forall_mem_cons.1 h
    rw [sendableItems, List.mem_cons] at hitem
    rcases hitem with rfl | hlater
    · exact canBeSent_sendable hfirst
    · exact canBeSent_sendableItems hrest item hlater

/-- What is sent for some members that can be sent can be sent. -/
theorem canBeSent_sendableMembers : ∀ {depth : Nat} {entries : List (Text × Json)},
    (∀ entry ∈ entries, entry.1.SurrogateFree ∧ CanBeSent depth entry.2) →
      ∀ entry ∈ sendableMembers entries, entry.1.SurrogateFree ∧ CanBeSent depth entry.2
  | _, [], _, entry, hentry => absurd hentry List.not_mem_nil
  | _, (name, value) :: rest, h, entry, hentry => by
    obtain ⟨hfirst, hrest⟩ := List.forall_mem_cons.1 h
    rw [sendableMembers] at hentry
    split at hentry
    · exact canBeSent_sendableMembers hrest entry hentry
    · rcases List.mem_cons.1 hentry with rfl | hlater
      · exact ⟨hfirst.1, canBeSent_sendable hfirst.2⟩
      · exact canBeSent_sendableMembers hrest entry hlater

end

/-- Items are sent one by one. -/
theorem sendableItems_eq_map (items : List Json) : sendableItems items = items.map sendable := by
  induction items with
  | nil => rfl
  | cons item rest ih => rw [sendableItems, ih, List.map_cons]

/-- Members are sent one by one, but for those that are withheld. -/
theorem sendableMembers_eq_map (entries : List (Text × Json)) :
    sendableMembers entries = (entries.filter fun entry => !isWithheld entry.1).map
      fun entry => (entry.1, sendable entry.2) := by
  induction entries with
  | nil => rfl
  | cons entry rest ih =>
    rw [sendableMembers, List.filter_cons, ih]
    cases isWithheld entry.1 <;> rfl

/-- **The stock framework encodes by parts.** -/
theorem encodesByParts (depth : Nat) : (framework depth).EncodesByParts where
  scalar {v} harray hobject := by
    cases v with
    | array items => exact absurd rfl harray
    | object entries => exact absurd rfl hobject
    | _ => rfl
  array {items} := by
    show sendable (.array items) = _
    rw [sendable, sendableItems_eq_map]
    rfl
  object {entries} hnodup := by
    show sendable (.object entries) = _
    rw [sendable, sendableMembers_eq_map]
    refine congrArg Json.object (Table.entries_ofList ?_)
    rw [List.map_map]
    exact hnodup.sublist (List.filter_sublist.map Prod.fst)
  canBeSent h := canBeSent_sendable h

/-! ### Responses -/

/-- A response with a value is as it was to be, with its type as a further header. -/
theorem render_eq_ok {status : Nat} {headers : Headers} {v : Json} {response : Response}
    (h : render status headers v = .ok response) :
    response = ⟨status, header contentType jsonType ++ headers, .value v⟩ := by
  unfold render at h
  split at h
  · cases h
  · split at h
    · cases h
    · exact (Except.ok.inj h).symm

/-- **The stock framework renders values.** -/
theorem rendersValues (depth : Nat) : (framework depth).RendersValues where
  sent {status headers v} h := by
    refine ⟨⟨status, header contentType jsonType ++ headers, .value v⟩, ?_⟩
    show render status headers v = _
    unfold render
    rw [h.defined, Encoding.unsendable?_eq_none_iff.2 h.surrogateFree]
    rfl
  kept {status headers v response} h := by
    obtain rfl := render_eq_ok h
    refine ⟨rfl, rfl, fun field hfield => ?_⟩
    rcases List.mem_append.1 hfield with htype | hgiven
    · obtain rfl := List.mem_singleton.1 htype
      exact Or.inr (by decide)
    · exact Or.inl hgiven

/-- A response with a value is plain if it was to be. -/
theorem isPlain_of_render {status : Nat} {headers : Headers} {v : Json} {response : Response}
    (hstatus : status ∈ ownStatuses) (hheaders : ∀ field ∈ headers, isForSites field.1 = false)
    (h : render status headers v = .ok response) : IsPlain response :=
  have hrender : (framework 0).render status headers v = .ok response := h
  Framework.isPlain_of_render (rendersValues 0) hstatus hheaders hrender

/-- A response with a message about what is wrong is plain. -/
theorem isPlain_of_detail {status : Nat} {headers : Headers} {message : Text}
    {response : Response} (hstatus : status ∈ ownStatuses)
    (hheaders : ∀ field ∈ headers, isForSites field.1 = false)
    (h : detail status headers message = .ok response) : IsPlain response :=
  isPlain_of_render hstatus hheaders h

/-- A response with complaints is plain. -/
theorem isPlain_of_complain {list : List Complaint} {response : Response}
    (h : complain list = .ok response) : IsPlain response :=
  isPlain_of_render (by decide) (List.forall_mem_nil _) h

/-- A response with a single header of a plain name is plain. -/
theorem isPlain_of_header {status : Nat} {name value : Text} {body : Service.Body}
    (hstatus : status ∈ ownStatuses) (hname : isForSites name = false) :
    IsPlain ⟨status, header name value, body⟩ :=
  ⟨hstatus, List.forall_mem_singleton.2 hname⟩

/-- What is answered to a request for no endpoint is plain. -/
theorem isPlain_of_route {pages : Service.Pages} {r : Request} {response : Response}
    (h : route pages r = .answered (.ok response)) : IsPlain response := by
  unfold route at h
  split at h
  · rename_i target htarget
    split at h
    · cases target with
      | endpoint e => cases h
      | page body type =>
        obtain rfl := Except.ok.inj (Service.Taken.answered.inj h)
        exact isPlain_of_header (by decide) (by decide)
    · have hname : isForSites "allow" = false := by decide
      exact isPlain_of_detail (by decide) (List.forall_mem_singleton.2 hname)
        (Service.Taken.answered.inj h)
  · split at h
    · obtain rfl := Except.ok.inj (Service.Taken.answered.inj h)
      exact isPlain_of_header (by decide) (by decide)
    · exact isPlain_of_detail (by decide) (List.forall_mem_nil _) (Service.Taken.answered.inj h)

/-- What is answered to a request without a position is plain. -/
theorem isPlain_of_refused {refusal : BodyRefusal} {response : Response}
    (h : Body.refused refusal = .ok response) : IsPlain response := by
  cases refusal with
  | complaints list => exact isPlain_of_complain h
  | unreadable => exact isPlain_of_detail (by decide) (List.forall_mem_nil _) h
  | raised fault => cases h

/-- **The stock framework answers plainly.** -/
theorem answersPlainly (depth : Nat) : (framework depth).AnswersPlainly where
  route h := isPlain_of_route h
  position {r response} h := by
    change Body.position depth r = _ at h
    unfold Body.position at h
    split at h
    · exact isPlain_of_refused (Service.Taken.answered.inj h)
    · split at h
      · exact isPlain_of_refused (Service.Taken.answered.inj h)
      · cases h
  signature {r response} h := by
    change signature r = _ at h
    unfold signature at h
    split at h
    · cases h
    · exact isPlain_of_complain (Service.Taken.answered.inj h)
  failed := ⟨rfl, List.forall_mem_singleton.2 (by decide)⟩

/-! ### Queries -/

/-- **The stock framework decodes queries.** -/
theorem decodesQueries (depth : Nat) : (framework depth).DecodesQueries where
  signature {r raw} h := by
    change signature r = _ at h
    unfold signature at h
    split at h
    · rename_i found hfound
      obtain rfl := Service.Taken.given.inj h
      obtain ⟨p, hp, rfl⟩ := Option.map_eq_some_iff.1 hfound
      have hmem := List.mem_reverse.1 (List.mem_of_find?_eq_some hp)
      obtain ⟨pair, -, rfl⟩ := List.mem_map.1 hmem
      exact Utf8.surrogateFree_decodeLossy _
    · cases h

end Stock
end ApiGuide
