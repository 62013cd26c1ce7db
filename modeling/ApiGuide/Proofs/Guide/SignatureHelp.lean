/-
# Signature help at an open call

Signature help is shown at a position if and only if a call of a known method is
open there: the line left of the position is cut by a call (`Context.Call.Cuts`)
whose receiver is a class of the catalog and whose method is one of that class.
There is one such call at most, so what is shown is determined by it
(`signatureHelp?_eq_some_iff_openCall`).
-/

import ApiGuide.Proofs.Context.Call
import ApiGuide.Proofs.Guide.Line

namespace ApiGuide
namespace Guide

open Context (Call)
open Payload (ParameterHelp SignatureHelp)

/-- A call of a method of the catalog that is open at a position of a document. -/
structure OpenCall (catalog : Catalog) (text : Text) (line character : Int) where
  current : Text
  call : Call
  owner : Class
  method : Method
  onLine : documentLine? text line = some current
  cuts : call.Cuts (Context.before current character)
  known : catalog.get? call.receiver = some owner
  member : owner.methods.get? call.method = some method

namespace OpenCall

variable {catalog : Catalog} {text : Text} {line character : Int}

/-- **One call at most is open at a position.** -/
theorem unique (o o' : OpenCall catalog text line character) : o = o' := by
  have hcurrent : o.current = o'.current := Option.some.inj (o.onLine.symm.trans o'.onLine)
  have hcall : o.call = o'.call := o.cuts.unique (hcurrent ▸ o'.cuts)
  have howner : o.owner = o'.owner := by
    have h := o.known
    rw [hcall, o'.known] at h
    exact (Option.some.inj h).symm
  have hmethod : o.method = o'.method := by
    have h := o.member
    rw [howner, hcall, o'.member] at h
    exact (Option.some.inj h).symm
  cases o
  cases o'
  simp only at hcurrent hcall howner hmethod
  subst hcurrent hcall howner hmethod
  rfl

end OpenCall

/-- The help that a catalog has for a call of a line is that for the call that cuts it. -/
theorem payload_signatureHelp?_eq_some_iff {catalog : Catalog} {current : Text} {character : Int}
    {help : SignatureHelp} :
    Payload.signatureHelp? catalog (Context.callAt current character) = some help ↔
      ∃ (call : Call) (owner : Class) (method : Method),
        call.Cuts (Context.before current character) ∧ catalog.get? call.receiver = some owner ∧
          owner.methods.get? call.method = some method ∧
          SignatureHelp.ofMethod method (call.arguments.count (CodePoint.ofChar ',')) = help := by
  constructor
  · intro h
    cases hcontext : Context.callAt current character with
    | call receiver name active =>
      rw [hcontext] at h
      obtain ⟨call, hcut, rfl, rfl, rfl⟩ := Context.callAt_eq_call_iff.1 hcontext
      obtain ⟨owner, howner, h⟩ := Option.bind_eq_some_iff.1 h
      obtain ⟨method, hget, h⟩ := Option.map_eq_some_iff.1 h
      exact ⟨call, owner, method, hcut, howner, hget, h⟩
    | _ =>
      rw [hcontext] at h
      cases h
  · rintro ⟨call, owner, method, hcut, howner, hget, rfl⟩
    rw [Context.callAt_eq_call_iff.2 ⟨call, hcut, rfl, rfl, rfl⟩]
    simp only [Payload.signatureHelp?, howner, hget, Option.bind_some, Option.map_some]

/-- **Signature help answers exactly where a known call is open.** What it shows is
the signature of the method, its parameters in order, and the number of commas
between the opening bracket and the position; and the open call is the only one. -/
theorem signatureHelp?_eq_some_iff_openCall {guide : Guide} {catalog : Catalog}
    (h : guide.catalog? = some catalog) (text : Text) (line character : Int) :
    (∀ help, guide.signatureHelp? text line character = some help ↔
      ∃ o : OpenCall catalog text line character,
        help.label = o.method.signature ∧ help.documentation = o.method.docstring ∧
        help.parameters =
          (Signature.parameters o.method.signature).map ParameterHelp.ofParameter ∧
        help.active = o.call.arguments.count (CodePoint.ofChar ',')) ∧
      ∀ o o' : OpenCall catalog text line character, o = o' := by
  refine ⟨fun help => ?_, OpenCall.unique⟩
  unfold signatureHelp?
  rw [join_onLine? h, Option.bind_eq_some_iff]
  constructor
  · rintro ⟨current, hcurrent, hhelp⟩
    obtain ⟨call, owner, method, hcut, howner, hmethod, rfl⟩ :=
      payload_signatureHelp?_eq_some_iff.1 hhelp
    refine ⟨⟨current, call, owner, method, hcurrent, hcut, howner, hmethod⟩, rfl, rfl, rfl, ?_⟩
    exact Int.max_eq_right (Int.natCast_nonneg _)
  · rintro ⟨o, hlabel, hdocumentation, hparameters, hactive⟩
    refine ⟨o.current, o.onLine, payload_signatureHelp?_eq_some_iff.2
      ⟨o.call, o.owner, o.method, o.cuts, o.known, o.member, ?_⟩⟩
    cases help
    simp only at hlabel hdocumentation hparameters hactive
    subst hlabel hdocumentation hparameters hactive
    exact congrArg _ (Int.max_eq_right (Int.natCast_nonneg _))

/-- A catalog of one class with one method. -/
def actorCatalog : Catalog :=
  ⟨[("Actor", ⟨"", [], ⟨[("move", ⟨"move(self, by: float, fast=False)", ""⟩)], by decide⟩,
    .empty⟩)], by decide⟩

def actorGuide : Guide := ⟨"API", .ok actorCatalog⟩

/-- Behind a call that is closed and before the end of the line, in a bracket that
opens no call of its own. -/
theorem signatureHelp?_eq_some_iff_openCall_actor :
    actorGuide.catalog? = some actorCatalog ∧
      ∃ o : OpenCall actorCatalog "\nx.f(1, 2).Actor.move ((1, 2" 1 99,
        o.method.signature = "move(self, by: float, fast=False)" ∧
          o.call.arguments.count (CodePoint.ofChar ',') = 1 := by
  have hcatalog : actorGuide.catalog? = some actorCatalog := rfl
  have hhelp : actorGuide.signatureHelp? "\nx.f(1, 2).Actor.move ((1, 2" 1 99 =
      some ⟨"move(self, by: float, fast=False)", "",
        [⟨"by: float", "Parameter: `by`\n\nType: `float`\n\n"⟩,
          ⟨"fast", "Parameter: `fast`\n\nDefault: `False`\n\n"⟩], 1⟩ := by decide +kernel
  obtain ⟨o, hlabel, -, -, hactive⟩ :=
    ((signatureHelp?_eq_some_iff_openCall hcatalog _ _ _).1 _).1 hhelp
  exact ⟨hcatalog, o, hlabel.symm, Int.ofNat_inj.1 hactive.symm⟩

end Guide
end ApiGuide
