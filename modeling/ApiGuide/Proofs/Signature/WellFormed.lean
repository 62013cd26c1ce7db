/-
# Parameters are well formed

Whatever the text of a signature, each of its parameters is well formed
(`Parameter.IsWellFormed`):

| part | holds |
| --- | --- |
| name | something, but no `,`, `=` or `:`; it is not that of the receiver |
| annotation | no `,` or `=`, and perhaps nothing; the name is a word then |
| default | something, but no `,` |

None of them begins or ends with a blank. Each parameter has a piece of the parameter list
of its own, in the same order, and its name, annotation and default stand in that piece
one behind the other, without a character in common (`parameters_wellFormed`).
-/

import ApiGuide.Proofs.Signature.Parts
import Mathlib.Data.List.Forall2

namespace ApiGuide

/-! ### Texts one behind the other -/

namespace Text

/-- The parts stand in the text one behind the other, without a character in common. -/
def InOrder : List Text → Text → Prop
  | [], _ => True
  | part :: parts, t => ∃ lead rest, t = lead ++ (part ++ rest) ∧ InOrder parts rest

/-- Parts in order are in order in a text with more before. -/
theorem InOrder.prepend {parts : List Text} {t : Text} (h : InOrder parts t) (lead : Text) :
    InOrder parts (lead ++ t) := by
  cases parts with
  | nil => trivial
  | cons part parts =>
    obtain ⟨before, rest, rfl, hrest⟩ := h
    exact ⟨lead ++ before, rest, (List.append_assoc ..).symm, hrest⟩

/-- **Parts of one text and parts of the next** are parts of both together. -/
theorem InOrder.append {parts parts' : List Text} {t t' : Text} (h : InOrder parts t)
    (h' : InOrder parts' t') : InOrder (parts ++ parts') (t ++ t') := by
  induction parts generalizing t with
  | nil => exact h'.prepend t
  | cons part parts ih =>
    obtain ⟨lead, rest, rfl, hrest⟩ := h
    exact ⟨lead, rest ++ t', by simp, ih hrest⟩

/-- Parts in order are in order in a text with more behind. -/
theorem InOrder.append_text {parts : List Text} {t : Text} (h : InOrder parts t) (tail : Text) :
    InOrder parts (t ++ tail) := by
  have htail : InOrder (parts ++ []) (t ++ tail) := h.append trivial
  rwa [List.append_nil] at htail

/-- Some of the parts, in their order. -/
theorem InOrder.sublist {parts parts' : List Text} {t : Text} (h : InOrder parts t)
    (hsub : parts'.Sublist parts) : InOrder parts' t := by
  induction hsub generalizing t with
  | slnil => trivial
  | cons part _ ih =>
    obtain ⟨lead, rest, rfl, hrest⟩ := h
    exact ((ih hrest).prepend part).prepend lead
  | cons_cons part _ ih =>
    obtain ⟨lead, rest, rfl, hrest⟩ := h
    exact ⟨lead, rest, rfl, ih hrest⟩

/-- A trimmed text is a part of the text. -/
theorem inOrder_trim (t : Text) : InOrder [t.trim] t := by
  obtain ⟨before, after, ht, -, -⟩ := exists_eq_trim t
  exact ⟨before, after, ht, trivial⟩

/-- **A cut at a character**: parts of what stands before it, and all of what stands
behind it, if it occurs at all. -/
theorem InOrder.append_after? {parts : List Text} {stop : CodePoint} {t : Text}
    (h : InOrder parts (upTo stop t)) :
    InOrder (parts ++ ((after? stop t).map trim).toList) t := by
  cases hafter : after? stop t with
  | none =>
    rw [upTo_of_not_mem (after?_eq_none_iff.1 hafter)] at h
    simpa using h
  | some value =>
    rw [eq_upTo_append_of_after? hafter]
    exact h.append ((inOrder_trim value).prepend [stop])

end Text

namespace Parameter

variable {p : Parameter} {token piece front behind : Text}

/-- What holds of the texts of every parameter that is read. -/
structure IsWellFormed (p : Parameter) : Prop where
  name_ne_nil : p.name ≠ []
  name_isTrimmed : p.name.IsTrimmed
  name_ne_receiver : p.name ≠ receiver
  name_signs : CodePoint.ofChar ',' ∉ p.name ∧ CodePoint.ofChar '=' ∉ p.name ∧
    CodePoint.ofChar ':' ∉ p.name
  type : ∀ type ∈ p.type, type.IsTrimmed ∧ CodePoint.ofChar ',' ∉ type ∧
    CodePoint.ofChar '=' ∉ type ∧ p.name.IsWord
  default : ∀ default ∈ p.default, default ≠ [] ∧ default.IsTrimmed ∧
    CodePoint.ofChar ',' ∉ default

/-- The name, the annotation and the default of a parameter, as far as it has them. -/
def parts (p : Parameter) : List Text := p.name :: (p.type.toList ++ p.default.toList)

/-! ### With an annotation -/

/-- The parts of the parameter around a colon stand on both sides of it. -/
theorem inOrder_aroundColon (h : FirstColon token front behind) :
    Text.InOrder (aroundColon front behind).parts token := by
  obtain ⟨lead, gap, hfront, -, -, -⟩ := Text.exists_of_trailingWord_trimEnd_ne_nil h.word
  have hname : Text.InOrder [front.trimEnd.trailingWord] front := ⟨lead, gap, hfront, trivial⟩
  rw [h.text]
  exact hname.append ((Text.inOrder_trim (Text.upTo '=' behind)).append_after?.prepend
    [CodePoint.ofChar ':'])

/-- The parameter around a colon is well formed, if it is not the receiver. -/
theorem isWellFormed_aroundColon (h : FirstColon token front behind) (htrim : token.IsTrimmed)
    (hcomma : CodePoint.ofChar ',' ∉ token)
    (hname : (aroundColon front behind).name ≠ receiver) :
    (aroundColon front behind).IsWellFormed := by
  have hpart := partOf_aroundColon h
  obtain ⟨-, -, -, -, hword, -⟩ := Text.exists_of_trailingWord_trimEnd_ne_nil h.word
  refine ⟨h.word, hword.isTrimmed, hname, ⟨hword.not_mem (by decide), hword.not_mem (by decide),
    hword.not_mem (by decide)⟩, fun type htype => ?_, fun default hdefault => ?_⟩
  · have hno := fun hmem => hcomma (hpart.type type htype hmem)
    obtain rfl := Option.some.inj htype
    exact ⟨Text.isTrimmed_trim _, hno,
      fun hmem => Text.not_mem_upTo _ behind (Text.trim_subset _ hmem), hword⟩
  · have hno := fun hmem => hcomma (hpart.default default hdefault hmem)
    obtain ⟨value, hvalue, rfl⟩ := Option.map_eq_some_iff.1 hdefault
    -- The default ends the token, which does not end with a blank.
    have htoken : token = front ++ CodePoint.ofChar ':' :: Text.upTo '=' behind ++
        [CodePoint.ofChar '='] ++ value := by
      rw [List.append_assoc, List.append_assoc, List.cons_append, List.singleton_append,
        ← Text.eq_upTo_append_of_after? hvalue, h.text]
    rw [htoken] at htrim
    exact ⟨htrim.trim_ne_nil (h.default value hvalue).1, Text.isTrimmed_trim _, hno⟩

/-! ### Without one -/

/-- The name and the default of the reading without regard to annotations stand on both
sides of the first equals sign. -/
theorem inOrder_plain? (h : plain? token = some p) : Text.InOrder p.parts token := by
  obtain ⟨-, rfl⟩ := plain?_eq_some_iff.1 h
  obtain ⟨rest, hrest⟩ := Text.exists_eq_upTo_append ':' (Text.upTo '=' token)
  have hname : Text.InOrder [headName token] (Text.upTo '=' token) := by
    rw [hrest]
    exact (Text.inOrder_trim _).append_text rest
  refine hname.append_after?.sublist (List.Sublist.cons_cons _ ?_)
  cases (Text.after? '=' token).map Text.trim with
  | none => exact List.Sublist.refl _
  | some value =>
    by_cases hvalue : value = []
    · simp [hvalue]
    · simp [hvalue]

/-- The reading without regard to annotations is well formed, if it is not the receiver. -/
theorem isWellFormed_plain? (h : plain? token = some p) (hcomma : CodePoint.ofChar ',' ∉ token)
    (hname : p.name ≠ receiver) : p.IsWellFormed := by
  have hpart := partOf_plain? h
  obtain ⟨hne, rfl⟩ := plain?_eq_some_iff.1 h
  have hin : headName token ⊆ (Text.upTo '=' token).upTo ':' := Text.trim_subset _
  have hcolon : CodePoint.ofChar ':' ∉ headName token := fun hmem =>
    Text.not_mem_upTo _ _ (hin hmem)
  have hsign : CodePoint.ofChar '=' ∉ headName token := fun hmem =>
    Text.not_mem_upTo _ token (Text.upTo_subset _ _ (hin hmem))
  refine ⟨hne, Text.isTrimmed_trim _, hname, ⟨fun hmem => hcomma (hpart.name hmem), hsign, hcolon⟩,
    fun type htype => absurd htype (Option.not_mem_none type), fun default hdefault => ?_⟩
  have hno := fun hmem => hcomma (hpart.default default hdefault hmem)
  obtain ⟨hvalue, hdefault⟩ := Option.filter_eq_some_iff.1 hdefault
  obtain ⟨value, -, rfl⟩ := Option.map_eq_some_iff.1 hvalue
  exact ⟨by simpa using hdefault, Text.isTrimmed_trim value, hno⟩

/-! ### A piece of the list -/

/-- **The parameter that a piece stands for** is well formed, and its parts stand in the
piece one behind the other. -/
theorem of_ofPiece? (h : ofPiece? piece = some p) (hcomma : CodePoint.ofChar ',' ∉ piece) :
    p.IsWellFormed ∧ Text.InOrder p.parts piece.trim := by
  have hno : CodePoint.ofChar ',' ∉ piece.trim := fun hmem =>
    hcomma (Text.trim_subset piece hmem)
  obtain ⟨-, htoken, hname⟩ := ofPiece?_eq_some_iff.1 h
  rcases ofToken?_eq_some_iff.1 htoken with hannotated | ⟨-, hplain⟩
  · obtain ⟨front, behind, hfirst, rfl⟩ := annotated?_eq_some_iff.1 hannotated
    exact ⟨isWellFormed_aroundColon hfirst (Text.isTrimmed_trim piece) hno hname,
      inOrder_aroundColon hfirst⟩
  · exact ⟨isWellFormed_plain? hplain hno hname, inOrder_plain? hplain⟩

end Parameter

namespace Signature

open Parameter (ofPiece?)

/-- Every parameter is read from a piece without a comma. -/
theorem isWellFormed_of_mem_parameters {raw : Text} {p : Parameter} (h : p ∈ parameters raw) :
    p.IsWellFormed := by
  obtain ⟨list, piece, -, hpiece, hread⟩ := exists_of_mem_parameters h
  exact (Parameter.of_ofPiece? hread (Text.not_mem_of_mem_splitOn hpiece)).1

/-- The pieces that stand for a parameter, in order. -/
theorem exists_sublist_filterMap (pieces : List Text) :
    ∃ kept, kept.Sublist pieces ∧
      List.Forall₂ (fun p piece => ofPiece? piece = some p) (pieces.filterMap ofPiece?) kept := by
  induction pieces with
  | nil => exact ⟨[], List.Sublist.refl [], List.Forall₂.nil⟩
  | cons piece pieces ih =>
    obtain ⟨kept, hsub, hkept⟩ := ih
    cases hread : ofPiece? piece with
    | none =>
      rw [List.filterMap_cons_none hread]
      exact ⟨kept, hsub.cons piece, hkept⟩
    | some p =>
      rw [List.filterMap_cons_some hread]
      exact ⟨piece :: kept, hsub.cons_cons piece, hkept.cons hread⟩

/-- **Every parameter is well formed, and they are in order.** There are none unless the
signature has a parameter list, the balanced text between its first opening bracket and a
closing one. Each has a piece of that list of its own, one later in the list for a later
parameter, and its texts stand in that piece one behind the other. -/
theorem parameters_wellFormed (raw : Text) :
    (∀ p ∈ parameters raw, p.IsWellFormed) ∧
      (parameters raw = [] ∨ ∃ before list behind pieces,
        raw = before ++ CodePoint.ofChar '(' :: (list ++ CodePoint.ofChar ')' :: behind) ∧
        CodePoint.ofChar '(' ∉ before ∧ Balanced list ∧
        pieces.Sublist (Text.splitOn ',' list) ∧
        List.Forall₂ (fun p piece => Text.InOrder p.parts piece.trim) (parameters raw) pieces) := by
  refine ⟨fun p hp => isWellFormed_of_mem_parameters hp, ?_⟩
  unfold parameters
  cases hlist : parameterList? raw with
  | none => exact Or.inl rfl
  | some list =>
    obtain ⟨before, behind, hraw, hbefore, hbalanced⟩ := parameterList?_eq_some_iff.1 hlist
    obtain ⟨pieces, hsub, hpieces⟩ := exists_sublist_filterMap (splitParameters list)
    refine Or.inr ⟨before, list, behind, pieces, hraw, hbefore, hbalanced, hsub, ?_⟩
    rw [List.forall₂_iff_zip] at hpieces ⊢
    refine ⟨hpieces.1, fun {p piece} hmem => ?_⟩
    have hpiece : piece ∈ splitParameters list := hsub.subset (List.of_mem_zip hmem).2
    exact (Parameter.of_ofPiece? (hpieces.2 hmem) (Text.not_mem_of_mem_splitOn hpiece)).2

/-- The pieces that a comma makes of a default are pieces like any other. -/
theorem parameters_wellFormed_cut :
    parameters "f(self, * b =\x7by = 2, c: = 1\x7d) (d)" =
        [⟨"* b", none, some ↑"\x7by = 2"⟩, ⟨"c", some [], some ↑"1\x7d"⟩] ∧
      Parameter.IsWellFormed ⟨"* b", none, some ↑"\x7by = 2"⟩ ∧
      Parameter.IsWellFormed ⟨"c", some [], some ↑"1\x7d"⟩ := by
  have hread : parameters "f(self, * b =\x7by = 2, c: = 1\x7d) (d)" =
      [⟨"* b", none, some ↑"\x7by = 2"⟩, ⟨"c", some [], some ↑"1\x7d"⟩] := by decide
  obtain ⟨hall, -⟩ := parameters_wellFormed "f(self, * b =\x7by = 2, c: = 1\x7d) (d)"
  rw [hread] at hall
  exact ⟨hread, hall _ List.mem_cons_self, hall _ (List.mem_cons_of_mem _ List.mem_cons_self)⟩

end Signature
end ApiGuide
