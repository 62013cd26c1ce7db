/-
# Typing on after completion

A method that is offered behind a receiver and a dot is typed, and an opening bracket
after it. If nothing stands between the dot and the method, signature help then shows
that method, at its first argument. If blanks stand there, the method is offered as
well, but what is typed is no call of the receiver: signature help stays what it was
(`signatureHelp?_after_complete`).
-/

import ApiGuide.Proofs.Guide.SignatureHelp
import ApiGuide.Proofs.Table

namespace ApiGuide

namespace Payload

/-- **Behind a receiver and a dot, every method of the class is offered.** -/
theorem ofMethod_mem_completions {catalog : Catalog} {receiver method : Text} {owner : Class}
    {m : Method} (howner : catalog.get? receiver = some owner)
    (hm : owner.methods.get? method = some m) (apiName : Text) :
    CompletionItem.ofMethod method m ∈ completions apiName catalog (.dot receiver) := by
  have hentry : (method, m) ∈ owner.methods.entries := Table.mem_of_lookup? hm
  simp only [completions, howner, sorted, List.mem_mergeSort, memberItems, List.mem_append]
  exact Or.inl (List.mem_map.2 ⟨_, hentry, rfl⟩)

end Payload

namespace Guide

open Context (typed)
open Payload (CompletionItem SignatureHelp)

/-- **Signature help after a completion.** Let the text left of a position end with a
receiver, a dot and blanks, and let a method and an opening bracket be typed there.
The call of that method is open if there are no blanks behind the dot; if there are,
the open call is the same as before. So a method that is offered at the position gets
its signature help if nothing stands behind the dot, and else the signature help is
the same as before. -/
theorem signatureHelp?_after_complete {left receiver method : Text}
    (hdot : Context.dotAt left left.length = .dot receiver) (hmethod : method.IsWord) :
    (Context.callAt (left ++ typed method) (left ++ typed method).length =
      if left.getLast? = some (CodePoint.ofChar '.') then .call receiver method 0
      else Context.callAt left left.length) ∧
    ∀ (guide : Guide) (catalog : Catalog) (owner : Class) (m : Method),
      guide.catalog? = some catalog → catalog.get? receiver = some owner →
      owner.methods.get? method = some m →
      ∀ (text text' : Text) (line line' character character' : Int),
        leftOf? text line character = some left →
        leftOf? text' line' character' = some (left ++ typed method) →
        CompletionItem.ofMethod method m ∈ guide.complete text line character ∧
        guide.signatureHelp? text' line' character' =
          if left.getLast? = some (CodePoint.ofChar '.') then some (SignatureHelp.ofMethod m 0)
          else guide.signatureHelp? text line character := by
  have hcall := Context.callAt_typed hdot hmethod
  refine ⟨hcall, fun guide catalog owner m hcatalog howner hm text text' line line' character
    character' hleft hleft' => ⟨?_, ?_⟩⟩
  · rw [complete_of_leftOf? hcatalog hleft, hdot]
    exact Payload.ofMethod_mem_completions howner hm guide.apiName
  · rw [signatureHelp?_of_leftOf? hcatalog hleft, signatureHelp?_of_leftOf? hcatalog hleft', hcall]
    split
    · simp only [Payload.signatureHelp?, howner, hm, Option.bind_some, Option.map_some]
    · rfl

/-- In the arguments of a call that is open before, with more text right of the cursor. -/
theorem signatureHelp?_after_complete_move :
    Context.dotAt "x.f(1, Actor." 13 = .dot "Actor" ∧
      actorGuide.signatureHelp? "\nx.f(1, Actor.move()" 1 18 =
        some (SignatureHelp.ofMethod ⟨"move(self, by: float, fast=False)", ""⟩ 0) := by
  have hdot : Context.dotAt "x.f(1, Actor." 13 = .dot "Actor" := by decide +kernel
  have hmethod : Text.IsWord "move" := by decide
  refine ⟨hdot, ?_⟩
  obtain ⟨-, hhelp⟩ := signatureHelp?_after_complete hdot hmethod
  obtain ⟨-, hmove⟩ := hhelp actorGuide actorCatalog _ _ rfl rfl rfl "\nx.f(1, Actor.)"
    "\nx.f(1, Actor.move()" 1 1 13 18 (by decide +kernel) (by decide +kernel)
  rwa [if_pos (by decide)] at hmove

/-- With a blank behind the dot, a method is offered whose call is not recognized. -/
theorem complete_and_signatureHelp?_behind_blank :
    Context.dotAt "Actor. " 7 = .dot "Actor" ∧ Text.IsWord "move" ∧
      CompletionItem.ofMethod "move" ⟨"move(self, by: float, fast=False)", ""⟩ ∈
        actorGuide.complete "Actor. " 0 7 ∧
      Context.callAt ("Actor. " ++ typed "move") 12 ≠ .call "Actor" "move" 0 ∧
      actorGuide.signatureHelp? (Text.ofString "Actor. " ++ typed "move") 0 12 = none := by
  decide +kernel

end Guide
end ApiGuide
