/-
# Calls and the words that name them

Signature help is found by a search for calls left of the position, hover by the word over
it and the last dot up to it. They agree: a method that signature help is given for is shown
over its name in the call, at every position there, unless a class has that name too
(`callAt_agrees_with_wordAt`).
-/

import ApiGuide.Proofs.Context.Dotted
import ApiGuide.Proofs.Guide.Lookup
import ApiGuide.Proofs.Guide.SignatureHelp

namespace ApiGuide
namespace Guide

open Context (Call Dotted Run)
open Payload (Hover SignatureHelp)

variable {guide : Guide} {catalog : Catalog} {text : Text} {line : Int}
  {current receiver name : Text} {cursor active : Int}

/-- Signature help in a call is that of the method of the class of its receiver. -/
theorem exists_method_of_signatureHelp? (h : guide.catalog? = some catalog)
    (hline : documentLine? text line = some current)
    (hcall : Context.callAt current cursor = .call receiver name active) {help : SignatureHelp}
    (hhelp : guide.signatureHelp? text line cursor = some help) :
    ∃ (c : Class) (m : Method), catalog.get? receiver = some c ∧ c.methods.get? name = some m ∧
      help = SignatureHelp.ofMethod m active := by
  unfold signatureHelp? at hhelp
  rw [join_onLine? h, hline, Option.bind_some, hcall] at hhelp
  obtain ⟨c, hc, hhelp⟩ := Option.bind_eq_some_iff.1 hhelp
  obtain ⟨m, hm, hhelp⟩ := Option.map_eq_some_iff.1 hhelp
  exact ⟨c, m, hc, hm, hhelp.symm⟩

/-- What is shown over the name of a method of the class that is its receiver. -/
theorem hover?_of_wordAt (h : guide.catalog? = some catalog)
    (hline : documentLine? text line = some current)
    (hword : Context.wordAt current cursor = .word name (some receiver)) (hreceiver : receiver ≠ [])
    {c : Class} {m : Method} (hc : catalog.get? receiver = some c)
    (hm : c.methods.get? name = some m) :
    (catalog.get? name = none →
      guide.hover? text line cursor = some (Hover.ofMethod receiver name m)) ∧
    ∀ other, catalog.get? name = some other →
      guide.hover? text line cursor = some (Hover.ofClass guide.apiName name other) := by
  rw [hover?_eq h hline, hword]
  refine ⟨fun hnone => ?_, fun other hother => ?_⟩
  · rw [payload_hover?_member hnone rfl hreceiver hc]
    simp only [Hover.ofMember?, hm]
  · simp only [Payload.hover?, hother]

/-- **Signature help and hover agree on the words that name a call.** The receiver and
the method of an open call are whole words of the line with a dot between, and at every
position over that method the context is the method with that receiver. So where
signature help is given, it is for a method of the class of the receiver, and at every
position over its name this method is shown; or the class of that name, if there is one. -/
theorem callAt_agrees_with_wordAt
    (hcall : Context.callAt current cursor = .call receiver name active) :
    ∃ (call : Call) (owner member : Run), call.Cuts (Context.before current cursor) ∧
      owner.before = call.before ∧ Dotted current owner member ∧
      owner.word = receiver ∧ member.word = name ∧
      (∀ k, member.Holds k → Context.wordAt current k = .word name (some receiver)) ∧
      ∀ (guide : Guide) (catalog : Catalog) (text : Text) (line : Int) (help : SignatureHelp),
        guide.catalog? = some catalog → documentLine? text line = some current →
        guide.signatureHelp? text line cursor = some help →
        ∃ (c : Class) (m : Method), catalog.get? receiver = some c ∧
          c.methods.get? name = some m ∧ help = SignatureHelp.ofMethod m active ∧
          ∀ k, member.Holds k →
            (catalog.get? name = none →
              guide.hover? text line k = some (Hover.ofMethod receiver name m)) ∧
            ∀ other, catalog.get? name = some other →
              guide.hover? text line k = some (Hover.ofClass guide.apiName name other) := by
  obtain ⟨call, hcut, rfl, rfl, rfl⟩ := Context.callAt_eq_call_iff.1 hcall
  have hdotted := hcut.dotted (current.drop (Context.clamp current cursor))
  rw [Context.before, List.take_append_drop] at hdotted
  have hword : ∀ k, (call.memberRun _).Holds k →
      Context.wordAt current k = .word call.method (some call.receiver) :=
    fun k hk => hdotted.wordAt hk (hcut.not_atDot _ k)
  refine ⟨call, _, _, hcut, rfl, hdotted, rfl, rfl, hword,
    fun guide catalog text line help h hline hhelp => ?_⟩
  obtain ⟨c, m, hc, hm, rfl⟩ := exists_method_of_signatureHelp? h hline hcall hhelp
  exact ⟨c, m, hc, hm, rfl, fun k hk =>
    hover?_of_wordAt h hline (hword k hk) hcut.whole.receiver.ne_nil hc hm⟩

/-- At the end of a method that a blank separates from its bracket, in a line that goes on
behind the cursor. -/
theorem callAt_agrees_with_wordAt_move :
    Context.callAt "x.f(1, 2).Actor.move ((1, 2).by" 27 = .call "Actor" "move" 1 ∧
      Context.wordAt "x.f(1, 2).Actor.move ((1, 2).by" 20 = .word "move" (some ↑"Actor") ∧
      ∃ m, actorGuide.hover? "x.f(1, 2).Actor.move ((1, 2).by" 0 20 =
        some (Hover.ofMethod "Actor" "move" m) := by
  have hcatalog : actorGuide.catalog? = some actorCatalog := rfl
  have hline : documentLine? "x.f(1, 2).Actor.move ((1, 2).by" 0 =
      some ↑"x.f(1, 2).Actor.move ((1, 2).by" := by decide
  have hcall : Context.callAt "x.f(1, 2).Actor.move ((1, 2).by" 27 = .call "Actor" "move" 1 := by
    decide +kernel
  have hhelp : (actorGuide.signatureHelp? "x.f(1, 2).Actor.move ((1, 2).by" 0 27).isSome := by
    decide +kernel
  obtain ⟨help, hhelp⟩ := Option.isSome_iff_exists.1 hhelp
  obtain ⟨call, owner, member, hcut, hbefore, hdotted, hreceiver, hname, hword, hhover⟩ :=
    callAt_agrees_with_wordAt hcall
  have hcut' : Call.Cuts ⟨⟨"x.f(1, 2).", "Actor", "move", " "⟩, "(1, 2"⟩
      (Context.before "x.f(1, 2).Actor.move ((1, 2).by" 27) :=
    ⟨by decide, ⟨⟨by decide, by decide⟩, ⟨by decide, by decide⟩, by decide, by decide⟩,
      Context.openings_eq_nil_iff.1 (by decide +kernel)⟩
  have hholds : member.Holds 20 := by
    have hstart := hdotted.next
    unfold Run.Holds
    unfold Run.start Run.stop at *
    rw [hbefore, hreceiver, hcut.unique hcut'] at hstart
    rw [hstart, hname]
    decide
  obtain ⟨c, m, -, -, -, hshown⟩ := hhover _ _ _ _ _ hcatalog hline hhelp
  exact ⟨hcall, hword 20 hholds, m, (hshown 20 hholds).1 (by decide)⟩

end Guide
end ApiGuide
