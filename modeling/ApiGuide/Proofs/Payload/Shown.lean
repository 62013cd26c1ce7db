/-
# What payloads show

What is shown of a parameter, a member or a class is put together from fixed texts and from
its own, and none of its own is lost:

| payload | shows |
| --- | --- |
| help for a parameter | its name and annotation, twice, and its default |
| item of a completion list | the name, and the names of the parameters to be filled in |
| hover | the name behind that of its owner, the documentation, the signature or the bases |

So signature help shows every parameter of the signature, in order
(`parameters_signatureHelp?`), a completion list has every name that can be chosen
(`labels_completions_dot`, `labels_completions_of_ne_dot`), and a hover shows the word that it
is about (`infix_of_hover?`).
-/

import ApiGuide.Payload.Completion
import ApiGuide.Payload.Hover
import ApiGuide.Payload.SignatureHelp
import ApiGuide.Proofs.Payload.Order
import ApiGuide.Proofs.Text.Cut

namespace ApiGuide
namespace Payload

open Text (infix_append_left infix_append_right infix_join)

/-! ### Parameters -/

/-- A title shows its text. -/
theorem infix_titled (title shown : Text) : shown <:+: titled title shown := by
  unfold titled
  split
  · rename_i hnil
    exact hnil ▸ List.infix_refl []
  · exact infix_append_left (infix_append_right (List.infix_refl _) _) _

/-- Help for a parameter that shows all there is of it. -/
structure ParameterHelp.Shows (help : ParameterHelp) (p : Parameter) : Prop where
  label : p.name <+: help.label
  name : p.name <:+: help.documentation
  type : ∀ t ∈ p.type, t <:+: help.label ∧ t <:+: help.documentation
  default : ∀ t ∈ p.default, t <:+: help.documentation

/-- **The help for a parameter shows all there is of it.** -/
theorem ParameterHelp.shows_ofParameter (p : Parameter) : (ofParameter p).Shows p where
  label := by
    unfold ofParameter
    simp only
    split
    · exact List.prefix_refl _
    · rw [List.append_assoc]
      exact List.prefix_append _ _
  name := by
    unfold ofParameter
    iterate 3 refine infix_append_left ?_ _
    exact infix_append_right (List.infix_refl _) _
  type t ht := by
    have htype : p.type.getD [] = t := by rw [Option.mem_def.1 ht, Option.getD_some]
    unfold ofParameter
    simp only [htype]
    refine ⟨?_, ?_⟩
    · split
      · rename_i hnil
        exact hnil ▸ List.nil_infix
      · exact infix_append_right (List.infix_refl _) _
    · exact infix_append_left (infix_append_right (infix_titled "Type" t) _) _
  default t ht := by
    have hdefault : p.default.getD [] = t := by rw [Option.mem_def.1 ht, Option.getD_some]
    unfold ofParameter
    simp only [hdefault]
    exact infix_append_right (infix_titled "Default" t) _

/-- **Signature help shows every parameter**, in the order of the signature. -/
theorem parameters_signatureHelp? {catalog : Catalog} {receiver method : Text} {active : Int}
    {help : SignatureHelp} (h : signatureHelp? catalog (.call receiver method active) = some help) :
    List.Forall₂ ParameterHelp.Shows help.parameters (Signature.parameters help.label) := by
  obtain ⟨c, -, hmethod⟩ := Option.bind_eq_some_iff.1 h
  obtain ⟨m, -, rfl⟩ := Option.map_eq_some_iff.1 hmethod
  show List.Forall₂ ParameterHelp.Shows ((Signature.parameters m.signature).map .ofParameter)
    (Signature.parameters m.signature)
  rw [List.forall₂_map_left_iff, List.forall₂_same]
  exact fun p _ => ParameterHelp.shows_ofParameter p

/-! ### Completion lists -/

/-- **All members of a class are offered by their names.** -/
theorem labels_completions_dot {apiName receiver : Text} {catalog : Catalog} {c : Class}
    (hget : catalog.get? receiver = some c) :
    ((completions apiName catalog (.dot receiver)).map (·.label)).Perm
      (c.methods.names ++ c.properties.names) := by
  have hlabels : (memberItems c).map (·.label) = c.methods.names ++ c.properties.names := by
    unfold memberItems
    rw [List.map_append, List.map_map, List.map_map]
    rfl
  rw [completions_dot hget, ← hlabels]
  exact (sorted_perm _).map _

/-- **All classes are offered by their names**, where there is no dot. -/
theorem labels_completions_of_ne_dot {apiName : Text} {catalog : Catalog} {context : Context}
    (h : ∀ receiver, context ≠ .dot receiver) :
    ((completions apiName catalog context).map (·.label)).Perm catalog.names := by
  have hlabels : (classItems apiName catalog).map (·.label) = catalog.names := by
    unfold classItems
    rw [List.map_map]
    rfl
  rw [completions_of_ne_dot h, ← hlabels]
  exact (sorted_perm _).map _

/-- There is a placeholder for each name. -/
theorem exists_placeholder {names : List Text} {name : Text} (h : name ∈ names) (number : Nat) :
    ∃ k, CompletionItem.placeholder k name ∈ CompletionItem.placeholders number names := by
  induction names generalizing number with
  | nil => exact absurd h List.not_mem_nil
  | cons first rest ih =>
    rcases List.mem_cons.1 h with rfl | hrest
    · exact ⟨number, List.mem_cons_self⟩
    · obtain ⟨k, hk⟩ := ih hrest (number + 1)
      exact ⟨k, List.mem_cons_of_mem _ hk⟩

/-- **What a method inserts begins with its name and shows every parameter.** -/
theorem infix_inserted (name : Text) (m : Method) {t : Text}
    (h : t ∈ (CompletionItem.ofMethod name m).insertion.text?) :
    name <+: t ∧ ∀ p ∈ Signature.parameters m.signature, p.name <:+: t := by
  change t ∈ (CompletionItem.methodInsertion name m.signature).text? at h
  unfold CompletionItem.methodInsertion at h
  split at h
  · rename_i hnone
    obtain rfl := Option.some.inj h
    exact ⟨List.prefix_refl _, fun p hp => absurd (hnone ▸ hp) List.not_mem_nil⟩
  · obtain rfl := Option.some.inj h
    unfold CompletionItem.snippet
    refine ⟨?_, fun p hp => ?_⟩
    · rw [List.append_assoc, List.append_assoc]
      exact List.prefix_append _ _
    · obtain ⟨k, hk⟩ := exists_placeholder (List.mem_map_of_mem (f := (·.name)) hp) 1
      have hshown : p.name <:+: CompletionItem.placeholder k p.name :=
        infix_append_left (infix_append_right (List.infix_refl _) _) _
      exact infix_append_left (infix_append_right (hshown.trans (infix_join hk ", ")) _) _

/-! ### Hovers -/

namespace Hover

/-- What is shown of a class: its name, its documentation and its bases. -/
theorem infix_ofClass (apiName name : Text) (c : Class) :
    name <:+: (ofClass apiName name c).contents ∧
      c.docstring.orElse noDocumentation <:+: (ofClass apiName name c).contents ∧
      ∀ base ∈ c.bases, base <:+: (ofClass apiName name c).contents := by
  unfold ofClass
  refine ⟨?_, ?_, fun base hbase => infix_append_right (infix_join hbase ", ") _⟩
  · iterate 4 refine infix_append_left ?_ _
    exact infix_append_right (List.infix_refl _) _
  · iterate 2 refine infix_append_left ?_ _
    exact infix_append_right (List.infix_refl _) _

/-- What is shown of a method: its name behind that of its owner, its signature and its
documentation. -/
theorem infix_ofMethod (owner name : Text) (m : Method) :
    (owner ++ "." ++ name : Text) <:+: (ofMethod owner name m).contents ∧
      m.signature <:+: (ofMethod owner name m).contents ∧
      m.docstring.orElse noDocumentation <:+: (ofMethod owner name m).contents := by
  unfold ofMethod
  refine ⟨?_, ?_, infix_append_right (List.infix_refl _) _⟩
  · iterate 4 refine infix_append_left ?_ _
    rw [List.append_assoc, List.append_assoc, List.append_assoc]
    exact infix_append_right (List.infix_refl _) _
  · iterate 2 refine infix_append_left ?_ _
    exact infix_append_right (infix_append_left (infix_append_right (List.infix_refl _) _) _) _

/-- What is shown of a property: its name behind that of its owner, its access and its
documentation. -/
theorem infix_ofProperty (owner name : Text) (p : Property) :
    (owner ++ "." ++ name : Text) <:+: (ofProperty owner name p).contents ∧
      p.access <:+: (ofProperty owner name p).contents ∧
      p.docstring.orElse noDocumentation <:+: (ofProperty owner name p).contents := by
  unfold ofProperty
  refine ⟨?_, ?_, infix_append_right (List.infix_refl _) _⟩
  · iterate 3 refine infix_append_left ?_ _
    rw [List.append_assoc, List.append_assoc, List.append_assoc]
    exact infix_append_right (List.infix_refl _) _
  · refine infix_append_left (infix_append_right ?_ _) _
    split
    · rename_i hnone
      exact hnone ▸ List.nil_infix
    · exact infix_append_left (infix_append_right (List.infix_refl _) _) _

end Hover

/-- **A hover shows the word that it is about.** -/
theorem infix_of_hover? {apiName word : Text} {catalog : Catalog} {receiver? : Option Text}
    {shown : Hover} (h : hover? apiName catalog (.word word receiver?) = some shown) :
    word <:+: shown.contents := by
  have hbehind : ∀ owner : Text, word <:+: (owner ++ "." ++ word : Text) := fun owner =>
    infix_append_right (List.infix_refl _) _
  unfold hover? at h
  simp only at h
  split at h
  · rename_i c hc
    obtain rfl := Option.some.inj h
    exact (Hover.infix_ofClass apiName word c).1
  · obtain ⟨owner, -, howned⟩ := Option.bind_eq_some_iff.1 h
    obtain ⟨c, -, hmember⟩ := Option.bind_eq_some_iff.1 howned
    unfold Hover.ofMember? at hmember
    split at hmember
    · rename_i m hm
      obtain rfl := Option.some.inj hmember
      exact (hbehind owner).trans (Hover.infix_ofMethod owner word m).1
    · obtain ⟨p, -, rfl⟩ := Option.map_eq_some_iff.1 hmember
      exact (hbehind owner).trans (Hover.infix_ofProperty owner word p).1

end Payload
end ApiGuide
