/-
# Hover over one word

Over a word, what is shown depends on the cursor in one way only: whether it stands
at the end of the word with a dot behind. Short of that, every cursor on the word
has the context, and the hover, of its first character. Between a word and a dot the
word is taken for its own receiver, so what is shown there is the class of that name
or nothing (`hover?_of_atDot`).
-/

import ApiGuide.Proofs.Context.Run
import ApiGuide.Proofs.Guide.Line

namespace ApiGuide
namespace Guide

open Context (Run)
open Payload (Hover)

/-- Over a word that is its own receiver, the class of that name is shown. -/
theorem payload_hover?_self (apiName : Text) (catalog : Catalog) {word : Text} (hword : word ≠ []) :
    Payload.hover? apiName catalog (.word word (some word)) =
      (catalog.get? word).map (Hover.ofClass apiName word) := by
  cases hget : catalog.get? word with
  | some c => simp only [Payload.hover?, hget, Option.map_some]
  | none => simp [Payload.hover?, hget, hword]

variable {guide : Guide} {catalog : Catalog} {text : Text} {line : Int} {run : Run} {cursor : Int}

/-- The hover on a line of the document is made from the context there. -/
theorem hover?_eq {current : Text} (h : guide.catalog? = some catalog)
    (hline : documentLine? text line = some current) (cursor : Int) :
    guide.hover? text line cursor =
      Payload.hover? guide.apiName catalog (Context.wordAt current cursor) := by
  unfold hover?
  rw [join_onLine? h, hline, Option.bind_some]

/-- **Between a word and a dot, a class is shown or nothing.** -/
theorem hover?_of_atDot (h : guide.catalog? = some catalog)
    (hline : documentLine? text line = some run.line) (hrun : run.IsWhole) (hc : run.Holds cursor)
    (hdot : run.AtDot cursor) :
    guide.hover? text line cursor =
      (catalog.get? run.word).map (Hover.ofClass guide.apiName run.word) := by
  rw [hover?_eq h hline, hrun.wordAt hc, if_pos hdot, payload_hover?_self _ _ hrun.word.ne_nil]

/-- **Elsewhere on a word, it is what is shown over the first character.** -/
theorem hover?_of_not_atDot (h : guide.catalog? = some catalog)
    (hline : documentLine? text line = some run.line) (hrun : run.IsWhole) (hc : run.Holds cursor)
    (hdot : ¬ run.AtDot cursor) :
    guide.hover? text line cursor = guide.hover? text line run.start := by
  obtain ⟨hstart, hstart'⟩ := Run.holds_start hrun
  rw [hover?_eq h hline, hover?_eq h hline, hrun.wordAt hc, hrun.wordAt hstart, if_neg hdot,
    if_neg hstart']

/-- **When two cursors on a word agree.** Their contexts are the same if both or none of
them is between the word and a dot, or if the receiver of the word is the word itself.
What is shown is the same if both or none of them is there, or if the class that is
shown there is shown over the first character too. -/
theorem wordAt_and_hover?_eq_iff (h : guide.catalog? = some catalog)
    (hline : documentLine? text line = some run.line) (hrun : run.IsWhole) {c₁ c₂ : Int}
    (h₁ : run.Holds c₁) (h₂ : run.Holds c₂) :
    (Context.wordAt run.line c₁ = Context.wordAt run.line c₂ ↔
      (run.AtDot c₁ ↔ run.AtDot c₂) ∨
        Context.receiverGuess? run.line run.start = some run.word) ∧
    (guide.hover? text line c₁ = guide.hover? text line c₂ ↔
      (run.AtDot c₁ ↔ run.AtDot c₂) ∨
        guide.hover? text line run.start =
          (catalog.get? run.word).map (Hover.ofClass guide.apiName run.word)) := by
  have hwords : ∀ r r' : Option Text, Context.word run.word r = .word run.word r' ↔ r = r' :=
    fun r r' => ⟨fun he => by injection he, fun he => by rw [he]⟩
  rw [hrun.wordAt h₁, hrun.wordAt h₂, hwords]
  by_cases hdot₁ : run.AtDot c₁ <;> by_cases hdot₂ : run.AtDot c₂
  · rw [hover?_of_atDot h hline hrun h₁ hdot₁, hover?_of_atDot h hline hrun h₂ hdot₂]
    simp [hdot₁, hdot₂]
  · rw [hover?_of_atDot h hline hrun h₁ hdot₁, hover?_of_not_atDot h hline hrun h₂ hdot₂]
    simp [hdot₁, hdot₂, eq_comm]
  · rw [hover?_of_not_atDot h hline hrun h₁ hdot₁, hover?_of_atDot h hline hrun h₂ hdot₂]
    simp [hdot₁, hdot₂]
  · rw [hover?_of_not_atDot h hline hrun h₁ hdot₁, hover?_of_not_atDot h hline hrun h₂ hdot₂]
    simp [hdot₁, hdot₂]

/-- A catalog of one class with one property. -/
def boxCatalog : Catalog :=
  ⟨[("Box", ⟨"", [], .empty, ⟨[("size", ⟨"", true, false⟩)], by decide⟩⟩)], by decide⟩

def boxGuide : Guide := ⟨"API", .ok boxCatalog⟩

/-- Both ends of a word with a bracket behind. -/
theorem wordAt_and_hover?_eq_iff_bracket :
    ∃ run : Run, boxGuide.catalog? = some boxCatalog ∧
      documentLine? "x = Box.size()" 0 = some run.line ∧ run.IsWhole ∧ run.Holds 8 ∧
      run.Holds 12 ∧ Context.wordAt run.line 8 = Context.wordAt run.line 12 ∧
      boxGuide.hover? "x = Box.size()" 0 8 = boxGuide.hover? "x = Box.size()" 0 12 := by
  let run : Run := ⟨"x = Box.", "size", "()"⟩
  have hcatalog : boxGuide.catalog? = some boxCatalog := rfl
  have hline : documentLine? "x = Box.size()" 0 = some run.line := by decide
  have hrun : run.IsWhole := ⟨⟨by decide, by decide⟩, by decide, by decide⟩
  have h₁ : run.Holds 8 := by decide
  have h₂ : run.Holds 12 := by decide
  have hdot : run.AtDot 8 ↔ run.AtDot 12 := by decide
  obtain ⟨hword, hhover⟩ := wordAt_and_hover?_eq_iff hcatalog hline hrun h₁ h₂
  exact ⟨run, hcatalog, hline, hrun, h₁, h₂, hword.2 (Or.inl hdot), hhover.2 (Or.inl hdot)⟩

/-- Both ends of a word with a dot behind: the receiver is lost at the second one. -/
theorem wordAt_ne_and_hover?_ne :
    ∃ run : Run, boxGuide.catalog? = some boxCatalog ∧
      documentLine? "Box.size.x" 0 = some run.line ∧ run.IsWhole ∧ run.Holds 4 ∧ run.Holds 8 ∧
      Context.wordAt run.line 4 ≠ Context.wordAt run.line 8 ∧
      boxGuide.hover? "Box.size.x" 0 4 ≠ boxGuide.hover? "Box.size.x" 0 8 := by
  refine ⟨⟨"Box.", "size", ".x"⟩, rfl, by decide, ⟨⟨by decide, by decide⟩, by decide, by decide⟩,
    by decide, by decide, by decide +kernel, by decide +kernel⟩

end Guide
end ApiGuide
