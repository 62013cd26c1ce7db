/-
# What the texts of a parameter are made of

The name, the annotation and the default of a parameter have no characters but those of
the signature it is read from (`Signature.partOf_parameters`): the reading cuts the
parameter list out of the signature, a piece out of the list, and the texts of the
parameter out of the piece, on both sides of a colon or an equals sign.
-/

import ApiGuide.Proofs.Signature.Annotation
import ApiGuide.Proofs.Signature.Bracket
import ApiGuide.Signature.Basic

namespace ApiGuide

namespace Parameter

variable {t token : Text} {p : Parameter}

/-- A parameter whose texts have no characters but those of a text. -/
structure PartOf (p : Parameter) (t : Text) : Prop where
  name : p.name ⊆ t
  type : ∀ u ∈ p.type, u ⊆ t
  default : ∀ u ∈ p.default, u ⊆ t

/-- A parameter of a part is one of the whole. -/
theorem PartOf.mono {t u : Text} (h : p.PartOf t) (htu : t ⊆ u) : p.PartOf u :=
  ⟨List.Subset.trans h.name htu, fun v hv => List.Subset.trans (h.type v hv) htu,
    fun v hv => List.Subset.trans (h.default v hv) htu⟩

/-- The parameter around a colon is made of the texts on both sides of it. -/
theorem partOf_aroundColon {front behind : Text} (h : FirstColon token front behind) :
    (aroundColon front behind).PartOf token := by
  obtain ⟨lead, gap, hfront, -, -, -⟩ := Text.exists_of_trailingWord_trimEnd_ne_nil h.word
  have hleft : front ⊆ token := fun c hc => h.text ▸ List.mem_append_left _ hc
  have hright : behind ⊆ token := fun c hc =>
    h.text ▸ List.mem_append_right _ (List.mem_cons_of_mem _ hc)
  refine ⟨fun c hc => hleft ?_, fun u hu => ?_, fun u hu => ?_⟩
  · rw [hfront]
    exact List.mem_append_right lead (List.mem_append_left gap hc)
  · obtain rfl := Option.some.inj hu
    exact fun c hc => hright (Text.upTo_subset _ _ (Text.trim_subset _ hc))
  · obtain ⟨value, hvalue, rfl⟩ := Option.map_eq_some_iff.1 hu
    exact fun c hc => hright (Text.after?_subset hvalue (Text.trim_subset value hc))

/-- The name before the signs is a part of the token. -/
theorem headName_subset (token : Text) : headName token ⊆ token := fun _ hc =>
  Text.upTo_subset _ token (Text.upTo_subset _ _ (Text.trim_subset _ hc))

/-- The parts of a parameter without annotation are in the token. -/
theorem partOf_plain? (h : plain? token = some p) : p.PartOf token := by
  obtain ⟨-, rfl⟩ := plain?_eq_some_iff.1 h
  refine ⟨headName_subset token, fun u hu => absurd hu (Option.not_mem_none u), fun u hu => ?_⟩
  obtain ⟨hdefault, -⟩ := Option.filter_eq_some_iff.1 hu
  obtain ⟨value, hvalue, rfl⟩ := Option.map_eq_some_iff.1 hdefault
  exact fun c hc => Text.after?_subset hvalue (Text.trim_subset value hc)

/-- The parts of a parameter are in the piece. -/
theorem partOf_ofPiece? {piece : Text} (h : ofPiece? piece = some p) : p.PartOf piece := by
  obtain ⟨-, htoken, -⟩ := ofPiece?_eq_some_iff.1 h
  refine PartOf.mono ?_ (Text.trim_subset piece)
  rcases ofToken?_eq_some_iff.1 htoken with hannotated | ⟨-, hplain⟩
  · obtain ⟨front, behind, hfirst, rfl⟩ := annotated?_eq_some_iff.1 hannotated
    exact partOf_aroundColon hfirst
  · exact partOf_plain? hplain

end Parameter

namespace Signature

/-- **A parameter is read from a piece of the parameter list.** -/
theorem exists_of_mem_parameters {raw : Text} {p : Parameter} (h : p ∈ parameters raw) :
    ∃ list piece, parameterList? raw = some list ∧ piece ∈ Text.splitOn ',' list ∧
      Parameter.ofPiece? piece = some p := by
  unfold parameters at h
  split at h
  · exact absurd h List.not_mem_nil
  · rename_i list hlist
    obtain ⟨piece, hpiece, hp⟩ := List.mem_filterMap.1 h
    exact ⟨list, piece, hlist, hpiece, hp⟩

/-- **A parameter is made of characters of its signature.** -/
theorem partOf_parameters {raw : Text} {p : Parameter} (h : p ∈ parameters raw) :
    p.PartOf raw := by
  obtain ⟨list, piece, hlist, hpiece, hp⟩ := exists_of_mem_parameters h
  obtain ⟨before, behind, rfl, -, -⟩ := parameterList?_eq_some_iff.1 hlist
  refine (Parameter.partOf_ofPiece? hp).mono fun c hc => ?_
  exact List.mem_append_right before (List.mem_cons_of_mem _
    (List.mem_append_left _ (Text.subset_of_mem_splitOn hpiece hc)))

end Signature
end ApiGuide
