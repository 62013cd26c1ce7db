/-
# What completion offers

What is offered at a position is decided by how the text left of it ends, blanks at
its end apart:

| end of the text | offered |
| --- | --- |
| the name of a class and a dot | the methods and the properties of that class |
| another word and a dot | nothing |
| anything else | the classes |

The word before the dot is taken whole (`Context.Ends.unique`). Everything is offered
once: the list is put in order, and nothing is added or left out (`complete_offers`).
-/

import ApiGuide.Proofs.Guide.Line

namespace ApiGuide

namespace Context

/-- A text ends with a receiver and a dot, blanks behind them apart; the receiver is a
word and goes on to neither side. -/
structure Ends (t lead receiver : Text) : Prop where
  text : t.trimEnd = lead ++ (receiver ++ [CodePoint.ofChar '.'])
  lead : ∀ c ∈ lead.getLast?, c.isWord = false
  receiver : receiver.IsWord

instance (t lead receiver : Text) : Decidable (Ends t lead receiver) :=
  decidable_of_iff (t.trimEnd = lead ++ (receiver ++ [CodePoint.ofChar '.']) ∧
    (∀ c ∈ lead.getLast?, c.isWord = false) ∧ receiver.IsWord)
    ⟨fun h => ⟨h.1, h.2.1, h.2.2⟩, fun h => ⟨h.1, h.2, h.3⟩⟩

/-- **A text ends with one receiver at most.** -/
theorem Ends.unique {t lead receiver lead' receiver' : Text} (h : Ends t lead receiver)
    (h' : Ends t lead' receiver') : lead = lead' ∧ receiver = receiver' := by
  have htext : (lead ++ receiver) ++ [CodePoint.ofChar '.'] =
      (lead' ++ receiver') ++ [CodePoint.ofChar '.'] := by
    rw [List.append_assoc, List.append_assoc, ← h.text, ← h'.text]
  exact Text.eq_of_append_run (List.append_cancel_right htext) h.receiver.isWord
    h'.receiver.isWord h.lead h'.lead

/-- **The receiver that is looked for** is the one that the text ends with. -/
theorem dotReceiver?_eq_some_iff_ends {t receiver : Text} :
    dotReceiver? t = some receiver ↔ ∃ lead, Ends t lead receiver := by
  rw [dotReceiver?_eq_some_iff]
  constructor
  · rintro ⟨lead, gap, rfl, hlead, hreceiver, hgap⟩
    refine ⟨lead, ?_, hlead, hreceiver⟩
    have hdot : ∀ c ∈ (lead ++ (receiver ++ [CodePoint.ofChar '.'])).getLast?,
        c.isBlank = false := by
      rw [← List.append_assoc, List.getLast?_concat]
      rintro c ⟨⟩
      decide
    have htrim := Text.trimEnd_append_gap hgap hdot
    rwa [List.append_assoc, List.append_assoc, List.singleton_append] at htrim
  · rintro ⟨lead, htext, hlead, hreceiver⟩
    refine ⟨lead, t.takeEndWhile CodePoint.isBlank, ?_, hlead, hreceiver, fun c hc => ?_⟩
    · have hcut := Text.dropEndWhile_append_takeEndWhile CodePoint.isBlank t
      rw [show t.dropEndWhile CodePoint.isBlank = t.trimEnd from rfl, htext] at hcut
      rwa [List.append_assoc, List.append_assoc, List.singleton_append, eq_comm] at hcut
    · exact List.mem_takeWhile_imp (List.mem_reverse.1 hc)

end Context

namespace Guide

open Context (Ends)
open Payload (CompletionItem)

variable {guide : Guide} {catalog : Catalog} {text : Text} {line character : Int}

/-- Without a line there is nothing to complete. -/
theorem complete_of_documentLine?_eq_none (h : documentLine? text line = none) :
    guide.complete text line character = [] := by
  unfold complete
  rw [onLine?_some, h]
  cases guide.catalog? <;> rfl

/-- **What completion offers.** Nothing on a line that does not exist. On another line
the text left of the position decides: behind a receiver and a dot, which are the only
ones, it is every member of the class of that name, once each, and nothing if there is
no such class; behind anything else it is every class, once each. So another text that
is the same left of the position is offered the same. -/
theorem complete_offers (h : guide.catalog? = some catalog) (text : Text) (line character : Int) :
    (documentLine? text line = none → guide.complete text line character = []) ∧
    ∀ left, leftOf? text line character = some left →
      (∀ lead receiver, Ends left lead receiver →
        (∀ lead' receiver', Ends left lead' receiver' → lead = lead' ∧ receiver = receiver') ∧
        (catalog.get? receiver = none → guide.complete text line character = []) ∧
        ∀ c, catalog.get? receiver = some c →
          (guide.complete text line character).Perm
            (c.methods.entries.map (fun entry => CompletionItem.ofMethod entry.1 entry.2) ++
              c.properties.entries.map fun entry => CompletionItem.ofProperty entry.1 entry.2)) ∧
      ((∀ lead receiver, ¬ Ends left lead receiver) →
        (guide.complete text line character).Perm
          (catalog.entries.map fun entry =>
            CompletionItem.ofClass guide.apiName entry.1 entry.2)) ∧
      ∀ text' line' character', leftOf? text' line' character' = some left →
        guide.complete text' line' character' = guide.complete text line character := by
  refine ⟨complete_of_documentLine?_eq_none, fun left hleft => ?_⟩
  have hcomplete := complete_of_leftOf? h hleft
  rw [hcomplete]
  refine ⟨fun lead receiver hends => ⟨fun _ _ => hends.unique, ?_⟩, fun hnone => ?_, ?_⟩
  · have hdot : Context.dotAt left left.length = .dot receiver := by
      rw [Context.dotAt_eq_dot_iff, Context.before_length]
      exact Context.dotReceiver?_eq_some_iff_ends.2 ⟨lead, hends⟩
    rw [hdot]
    refine ⟨fun hget => ?_, fun c hget => ?_⟩
    · simp only [Payload.completions, hget]
    · simp only [Payload.completions, hget]
      exact List.mergeSort_perm _ _
  · have hdot : Context.dotAt left left.length = .nothing := by
      unfold Context.dotAt
      rw [Context.before_length]
      cases hfound : Context.dotReceiver? left with
      | none => rfl
      | some receiver =>
        obtain ⟨lead, hends⟩ := Context.dotReceiver?_eq_some_iff_ends.1 hfound
        exact absurd hends (hnone lead receiver)
    rw [hdot]
    exact List.mergeSort_perm _ _
  · exact fun text' line' character' hleft' => complete_of_leftOf? h hleft'

/-- A catalog of two classes, one of which has members. -/
def lampCatalog : Catalog :=
  ⟨[("Room", ⟨"", [], .empty, .empty⟩),
    ("Lamp", ⟨"", [], ⟨[("light", ⟨"light(self)", "On."⟩)], by decide⟩,
      ⟨[("color", ⟨"", true, true⟩)], by decide⟩⟩)], by decide⟩

def lampGuide : Guide := ⟨"API", .ok lampCatalog⟩

/-- With blanks behind the dot and text right of the position; and behind a word that is
no class, at the end of a chain. -/
theorem complete_offers_lamp :
    Ends "Room.x(Lamp. \t" "Room.x(" "Lamp" ∧
      (lampGuide.complete "\nRoom.x(Lamp. \tcolor" 1 14).Perm
        [.ofMethod "light" ⟨"light(self)", "On."⟩, .ofProperty "color" ⟨"", true, true⟩] ∧
      Ends "Lamp.color." "Lamp." "color" ∧ lampGuide.complete "Lamp.color." 0 99 = [] := by
  have hcatalog : lampGuide.catalog? = some lampCatalog := rfl
  have hends : Ends "Room.x(Lamp. \t" "Room.x(" "Lamp" := by decide
  have hends' : Ends "Lamp.color." "Lamp." "color" := by decide
  obtain ⟨-, hlamp⟩ := complete_offers hcatalog "\nRoom.x(Lamp. \tcolor" 1 14
  obtain ⟨hreceiver, -⟩ := hlamp "Room.x(Lamp. \t" (by decide)
  obtain ⟨-, hcolor⟩ := complete_offers hcatalog "Lamp.color." 0 99
  obtain ⟨hreceiver', -⟩ := hcolor "Lamp.color." (by decide)
  exact ⟨hends, (hreceiver _ _ hends).2.2 _ rfl, hends', (hreceiver' _ _ hends').2.1 rfl⟩

end Guide
end ApiGuide
