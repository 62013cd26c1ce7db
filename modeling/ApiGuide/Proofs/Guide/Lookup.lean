/-
# What is looked up over a word

Over the word at a position, the catalog is asked for three things, one after the other:

| asked for | shown |
| --- | --- |
| a class of the name of the word | the class |
| a method of that name of the owner | the method |
| a property of that name of the owner | the property |

The owner is the class named before the last dot up to the position (`Owner`). Where
there is no word, or the catalog has none of these, nothing is shown
(`hover?_looks_up`).
-/

import ApiGuide.Proofs.Context.Word
import ApiGuide.Proofs.Guide.Completion
import ApiGuide.Proofs.Guide.Hover

namespace ApiGuide
namespace Guide

open Context (IsLastDot Run Touches receiverGuess? wordLeftOf)
open Payload (Hover)

/-- The class that the last dot up to a position follows: there is text left of the dot,
and it ends with the name of the class, blanks apart. -/
structure Owner (catalog : Catalog) (line : Text) (k : Nat) (name : Text) (c : Class) : Prop where
  dot : ∃ d, IsLastDot line k d ∧ 0 < d ∧ wordLeftOf line d = name
  ne_nil : name ≠ []
  known : catalog.get? name = some c

variable {guide : Guide} {catalog : Catalog} {text : Text} {line : Int} {current : Text} {k : Nat}

/-- An owner is the class of the receiver that is guessed. -/
theorem owner_iff {name : Text} {c : Class} :
    Owner catalog current k name c ↔
      receiverGuess? current k = some name ∧ catalog.get? name = some c := by
  rw [Context.receiverGuess?_eq_some_iff]
  constructor
  · rintro ⟨⟨d, hd, -, hname⟩, hne, hknown⟩
    exact ⟨⟨d, hd, hname, hne⟩, hknown⟩
  · rintro ⟨⟨d, hd, rfl, hne⟩, hknown⟩
    refine ⟨⟨d, hd, Nat.pos_of_ne_zero ?_, rfl⟩, hne, hknown⟩
    rintro rfl
    exact hne rfl

/-- **What is shown for a word that is no class** is the member of that name of the class
of its receiver. -/
theorem payload_hover?_member {apiName word name : Text} {c : Class} {receiver? : Option Text}
    (hword : catalog.get? word = none) (hreceiver : receiver? = some name) (hname : name ≠ [])
    (hknown : catalog.get? name = some c) :
    Payload.hover? apiName catalog (.word word receiver?) = Hover.ofMember? name word c := by
  simp only [Payload.hover?, hword, hreceiver, Option.filter_some, decide_eq_true hname, if_true,
    Option.bind_some, hknown]

/-- For a word that is no class, with a receiver that is none either, nothing is shown. -/
theorem payload_hover?_eq_none {apiName word : Text} {receiver? : Option Text}
    (hword : catalog.get? word = none)
    (hreceiver : ∀ name c, receiver? = some name → catalog.get? name ≠ some c) :
    Payload.hover? apiName catalog (.word word receiver?) = none := by
  simp only [Payload.hover?, hword]
  refine Option.bind_eq_none_iff.2 fun name hname => ?_
  cases hget : catalog.get? name with
  | none => rfl
  | some c => exact absurd hget (hreceiver name c (Option.filter_eq_some_iff.1 hname).1)

/-- **What is shown over a position.** Where it touches no word, nothing. Else there is one
whole word over it. If that is the name of a class, the class is shown; if not, a method of
its owner of that name, or else a property of its owner of that name; and nothing if it has
no owner or the owner has neither. -/
theorem hover?_looks_up (h : guide.catalog? = some catalog)
    (hline : documentLine? text line = some current) (character : Int) :
    (¬ Touches current (Context.clamp current character) →
      guide.hover? text line character = none) ∧
    (Touches current (Context.clamp current character) →
      ∃ run : Run,
        (run.line = current ∧ run.IsWhole ∧ run.Holds (Context.clamp current character)) ∧
        (∀ run' : Run, run'.line = current → run'.IsWhole →
          run'.Holds (Context.clamp current character) → run' = run) ∧
        (∀ c, catalog.get? run.word = some c →
          guide.hover? text line character = some (Hover.ofClass guide.apiName run.word c)) ∧
        (catalog.get? run.word = none →
          (∀ name owner, Owner catalog current (Context.clamp current character) name owner →
            (∀ m, owner.methods.get? run.word = some m →
              guide.hover? text line character = some (Hover.ofMethod name run.word m)) ∧
            (owner.methods.get? run.word = none → ∀ p, owner.properties.get? run.word = some p →
              guide.hover? text line character = some (Hover.ofProperty name run.word p)) ∧
            (owner.methods.get? run.word = none → owner.properties.get? run.word = none →
              guide.hover? text line character = none)) ∧
          ((∀ name owner,
              ¬ Owner catalog current (Context.clamp current character) name owner) →
            guide.hover? text line character = none))) := by
  rw [hover?_eq h hline]
  refine ⟨fun hnot => by rw [Context.wordAt_of_not_touches hnot]; rfl, fun htouches => ?_⟩
  obtain ⟨run, rfl, hwhole, hholds⟩ := Context.exists_run htouches
  refine ⟨run, ⟨rfl, hwhole, hholds⟩,
    fun run' hrun' hwhole' hholds' => hwhole'.unique hwhole hrun' hholds' hholds, ?_⟩
  rw [Context.wordAt_run hwhole hholds]
  refine ⟨fun c hget => by simp only [Payload.hover?, hget], fun hget =>
    ⟨fun name owner howner => ?_, fun hnone => ?_⟩⟩
  · obtain ⟨hguess, hknown⟩ := owner_iff.1 howner
    rw [payload_hover?_member hget hguess howner.ne_nil hknown]
    refine ⟨fun m hm => ?_, fun hm p hp => ?_, fun hm hp => ?_⟩
    · simp only [Hover.ofMember?, hm]
    · simp only [Hover.ofMember?, hm, hp, Option.map_some]
    · simp only [Hover.ofMember?, hm, hp, Option.map_none]
  · refine payload_hover?_eq_none hget fun name c hguess hknown => ?_
    exact hnone name c (owner_iff.2 ⟨hguess, hknown⟩)

/-- On a property of a class with a blank before the dot; and left of the dot, where the
blank is. -/
theorem hover?_looks_up_color :
    lampGuide.hover? "Lamp .color(" 0 8 = some (Hover.ofProperty "Lamp" "color" ⟨"", true, true⟩) ∧
      lampGuide.hover? "Lamp .color(" 0 5 = none := by
  have hcatalog : lampGuide.catalog? = some lampCatalog := rfl
  have hline : documentLine? "Lamp .color(" 0 = some ↑"Lamp .color(" := by decide
  constructor
  · obtain ⟨run, -, hunique, -, hmember⟩ := (hover?_looks_up hcatalog hline 8).2 (by decide)
    have hrun : (⟨"Lamp .", "color", "("⟩ : Run) = run :=
      hunique _ rfl ⟨⟨by decide, by decide⟩, by decide, by decide⟩ (by decide)
    have howner : Owner lampCatalog "Lamp .color(" 8 "Lamp" _ :=
      ⟨⟨5, ⟨by decide, by decide, by decide⟩, by decide, by decide⟩, by decide, rfl⟩
    rw [← hrun] at hmember
    exact ((hmember rfl).1 _ _ howner).2.1 rfl _ rfl
  · exact (hover?_looks_up hcatalog hline 5).1 (by decide)

end Guide
end ApiGuide
