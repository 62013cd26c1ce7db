/-
# What a piece of a parameter list is read as

One statement for each step of the reading. The name in front ends at the first colon or
equals sign (`headName_append`). An annotation and a default stand behind a name, blanks
and a colon (`annotation?_gap_append`), in two shapes: `annotation?_of_type` and
`annotation?_of_default`. A trimmed piece has two readings, with and without regard to
annotations (`annotated?_append`, `plain?_eq_some_iff`); where there is no colon there is
no annotation (`annotated?_of_not_mem`). The piece stands for the parameter that is read,
if that is no receiver (`ofPiece?_eq_some_iff`).
-/

import ApiGuide.Signature.Parameter
import ApiGuide.Proofs.Text.Cut
import ApiGuide.Proofs.Text.Edge

namespace ApiGuide
namespace Parameter

/-! ### The name in front -/

/-- **The name in front ends at the first colon or equals sign**, or with the text. -/
theorem headName_append {front rest : Text} (hsign : CodePoint.ofChar '=' ∉ front)
    (hcolon : CodePoint.ofChar ':' ∉ front)
    (hrest : ∀ c ∈ rest.head?, c = CodePoint.ofChar ':' ∨ c = CodePoint.ofChar '=') :
    headName (front ++ rest) = front.trim := by
  unfold headName
  rw [Text.upTo_append hsign, Text.upTo_append hcolon]
  cases rest with
  | nil => simp [Text.upTo]
  | cons c rest =>
    have hend :
        Text.upTo (CodePoint.ofChar ':') (Text.upTo (CodePoint.ofChar '=') (c :: rest)) = [] := by
      rcases hrest c rfl with rfl | rfl
      · simp [Text.upTo]
      · rw [Text.upTo_cons_self]
        rfl
    rw [hend, List.append_nil]

/-! ### The annotation behind a name -/

/-- Without a colon behind the blanks there is no annotation. -/
theorem annotation?_of_head? {rest : Text}
    (h : ∀ d ∈ rest.trimStart.head?, d ≠ CodePoint.ofChar ':') :
    annotation? rest = none := by
  unfold annotation?
  cases htrim : rest.trimStart with
  | nil => rfl
  | cons d body => exact if_neg (h d (by rw [htrim]; rfl))

/-- Behind blanks and a colon there is an annotation if the colon admits one. -/
theorem annotation?_gap_append {gap behind type : Text} {default : Option Text} (hgap : gap.IsGap) :
    annotation? (gap ++ CodePoint.ofChar ':' :: behind) = some (type, default) ↔
      (Text.upTo '=' behind ≠ [] ∧
        ∀ value ∈ Text.after? '=' behind, value ≠ [] ∧ CodePoint.lineFeed ∉ value.trimStart) ∧
      (Text.upTo '=' behind).trim = type ∧ (Text.after? '=' behind).map Text.trim = default := by
  have htrim : Text.trimStart (gap ++ CodePoint.ofChar ':' :: behind) =
      CodePoint.ofChar ':' :: behind :=
    Text.trimStart_gap_append hgap (by simp; decide)
  unfold annotation?
  rw [htrim]
  by_cases htype : Text.upTo '=' behind = []
  · simp [htype]
  · cases hafter : Text.after? '=' behind with
    | none => simp [htype, hafter]
    | some value =>
      by_cases hvalue : value = [] ∨ CodePoint.lineFeed ∈ value.trimStart
      · have hrefused : value ≠ [] → CodePoint.lineFeed ∈ value.trimStart := hvalue.resolve_left
        simpa [htype, hafter, hvalue] using fun h h' => absurd (hrefused h) h'
      · simp [htype, hafter, not_or.1 hvalue]

/-- Behind blanks and a colon, a text without an equals sign is an annotation. -/
theorem annotation?_of_type {gap type : Text} (hgap : gap.IsGap) (htype : type ≠ [])
    (hsign : CodePoint.ofChar '=' ∉ type) :
    annotation? (gap ++ CodePoint.ofChar ':' :: type) = some (type.trim, none) := by
  rw [annotation?_gap_append hgap, Text.upTo_of_not_mem hsign, Text.after?_eq_none_iff.2 hsign]
  exact ⟨⟨htype, fun _ hnone => absurd hnone (Option.not_mem_none _)⟩, rfl, rfl⟩

/-- Behind blanks and a colon, the text up to an equals sign is an annotation, and
what follows the sign a default that stays on one line. -/
theorem annotation?_of_default {gap type value : Text} (hgap : gap.IsGap) (htype : type ≠ [])
    (hsign : CodePoint.ofChar '=' ∉ type) (hvalue : value ≠ [])
    (hline : CodePoint.lineFeed ∉ value.trimStart) :
    annotation? (gap ++ CodePoint.ofChar ':' :: (type ++ CodePoint.ofChar '=' :: value)) =
      some (type.trim, some value.trim) := by
  rw [annotation?_gap_append hgap, Text.upTo_append_cons hsign, Text.after?_append_cons hsign]
  refine ⟨⟨htype, fun behind hbehind => ?_⟩, rfl, rfl⟩
  obtain rfl := Option.some.inj hbehind
  exact ⟨hvalue, hline⟩

/-- An annotation follows a colon. -/
theorem annotation?_of_not_mem {rest : Text} (h : CodePoint.ofChar ':' ∉ rest) :
    annotation? rest = none := by
  refine annotation?_of_head? fun d hd hcolon => h ?_
  rw [← hcolon]
  exact Text.trimStart_subset rest (List.mem_of_mem_head? hd)

/-! ### The two readings of a trimmed piece -/

/-- **A word with an annotation behind it is read with this annotation.** -/
theorem annotated?_append {name rest type : Text} {default : Option Text} (hname : name.IsWord)
    (hrest : ∀ c ∈ rest.head?, c.isWord = false) (h : annotation? rest = some (type, default)) :
    annotated? (name ++ rest) = some ⟨name, some type, default⟩ := by
  obtain ⟨hne, hword⟩ := hname
  obtain ⟨c, tail, rfl⟩ := List.exists_cons_of_ne_nil hne
  have htail : ∀ d ∈ tail, d.isWord = true := fun d hd => hword d (List.mem_cons_of_mem _ hd)
  rw [List.cons_append, annotated?, if_pos (hword c List.mem_cons_self),
    Text.dropWhile_run htail hrest, Text.takeWhile_run htail hrest, h]

/-- **There is no annotation without a colon.** -/
theorem annotated?_of_not_mem {t : Text} (h : CodePoint.ofChar ':' ∉ t) : annotated? t = none := by
  induction t with
  | nil => rfl
  | cons c t ih =>
    have ht : CodePoint.ofChar ':' ∉ t := fun hm => h (List.mem_cons_of_mem _ hm)
    have hrest : annotation? (t.dropWhile CodePoint.isWord) = none :=
      annotation?_of_not_mem fun hm => ht ((List.dropWhile_sublist _).subset hm)
    rw [annotated?, hrest, ih ht]
    exact ite_self none

/-- The reading without regard to annotations has the name in front, and for its default
what follows the first equals sign. -/
theorem plain?_eq {token : Text} (h : headName token ≠ []) :
    plain? token = some ⟨headName token, none,
      ((Text.after? '=' token).map Text.trim).filter (· ≠ [])⟩ := by
  unfold plain?
  rw [if_neg h]
  cases Text.after? '=' token with
  | none => rfl
  | some value =>
    by_cases hvalue : value.trim = []
    · simp [hvalue, Option.filter]
    · simp [hvalue, Option.filter]

/-- There is such a reading unless the name in front is empty. -/
theorem plain?_eq_ite (token : Text) : plain? token =
    if headName token = [] then none else some ⟨headName token, none,
      ((Text.after? '=' token).map Text.trim).filter (· ≠ [])⟩ := by
  split
  · rename_i h
    unfold plain?
    rw [if_pos h]
  · rename_i h
    exact plain?_eq h

/-- Without an equals sign there is no default. -/
theorem plain?_of_not_mem {token : Text} (hname : headName token ≠ [])
    (hsign : CodePoint.ofChar '=' ∉ token) : plain? token = some ⟨headName token, none, none⟩ := by
  rw [plain?_eq hname, Text.after?_eq_none_iff.2 hsign]
  rfl

/-- **The default is what follows the first equals sign**, trimmed. -/
theorem plain?_of_default {front value : Text}
    (hname : headName (front ++ CodePoint.ofChar '=' :: value) ≠ [])
    (hsign : CodePoint.ofChar '=' ∉ front) (hvalue : value.trim ≠ []) :
    plain? (front ++ CodePoint.ofChar '=' :: value) =
      some ⟨headName (front ++ CodePoint.ofChar '=' :: value), none, some value.trim⟩ := by
  rw [plain?_eq hname, Text.after?_append_cons hsign]
  simp [hvalue]

/-- A token without annotation has the name before its signs, and what stands behind an equals
sign for its default. -/
theorem plain?_eq_some_iff {token : Text} {p : Parameter} :
    plain? token = some p ↔ headName token ≠ [] ∧
      ⟨headName token, none, ((Text.after? '=' token).map Text.trim).filter (· ≠ [])⟩ = p := by
  by_cases h : headName token = []
  · unfold plain?
    rw [if_pos h]
    simp [h]
  · rw [plain?_eq h, Option.some_inj, and_iff_right h]

/-- **The reading with an annotation goes first.** -/
theorem ofToken?_of_annotated? {token : Text} {p : Parameter} (h : annotated? token = some p) :
    ofToken? token = some p := by
  unfold ofToken?
  rw [h]
  rfl

/-- Without a colon the other reading is left. -/
theorem ofToken?_of_not_mem {token : Text} (h : CodePoint.ofChar ':' ∉ token) :
    ofToken? token = plain? token := by
  unfold ofToken?
  rw [annotated?_of_not_mem h]
  rfl

/-- A token is read by its annotation, and only without one as a plain name. -/
theorem ofToken?_eq_some_iff {token : Text} {p : Parameter} :
    ofToken? token = some p ↔
      annotated? token = some p ∨ annotated? token = none ∧ plain? token = some p := by
  unfold ofToken?
  cases annotated? token <;> simp

/-- **A piece stands for the parameter that its text is read as**, if neither the name in
front nor the name that is read is that of a receiver. -/
theorem ofPiece?_eq_some_iff {piece : Text} {p : Parameter} :
    ofPiece? piece = some p ↔ (piece.trim ≠ [] ∧ headName piece.trim ≠ receiver) ∧
      ofToken? piece.trim = some p ∧ p.name ≠ receiver := by
  unfold ofPiece?
  simp only
  split
  · rename_i h
    simp [← not_or, h]
  · rename_i h
    simp [Option.filter_eq_some_iff, ← not_or, h]

end Parameter
end ApiGuide
