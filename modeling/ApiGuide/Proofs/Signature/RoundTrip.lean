/-
# Parameter lists as they are written

A parameter is written in one of four forms, with any blanks around the colon, the
equals sign and the whole piece:

| form | annotation | default |
| --- | --- | --- |
| `n` | | |
| `n : t` | no equals sign | |
| `n = d` | | no colon |
| `n : t = d` | no equals sign | no line break |

Annotations and defaults have no comma, balanced brackets and no blank at either
end (`IsPart`); inside them brackets, colons and, in a default, equals signs are
free. A written list has the parameters in order, and blank pieces and receivers
wherever it likes (`Listing`). Reading the signature that encloses a written list
gives the parameters back (`parameters_of_listing`).
-/

import ApiGuide.Signature.Basic
import ApiGuide.Proofs.Signature.Bracket
import ApiGuide.Proofs.Signature.Reading

namespace ApiGuide
namespace Signature

/-! ### Pieces of a list -/

/-- A text that a list of pieces does not cut: no comma, and balanced brackets. -/
structure IsPiece (t : Text) : Prop where
  no_comma : CodePoint.ofChar ',' ∉ t
  balanced : Balanced t

/-- Pieces one after the other are a piece. -/
theorem IsPiece.append {s t : Text} (hs : IsPiece s) (ht : IsPiece t) : IsPiece (s ++ t) :=
  ⟨fun h => (List.mem_append.1 h).elim hs.no_comma ht.no_comma, hs.balanced.append ht.balanced⟩

/-- A text without commas and brackets is a piece. -/
theorem isPiece_of_not_mem {t : Text} (hcomma : CodePoint.ofChar ',' ∉ t)
    (hopen : CodePoint.ofChar '(' ∉ t) (hclose : CodePoint.ofChar ')' ∉ t) : IsPiece t :=
  ⟨hcomma, balanced_of_not_mem hopen hclose⟩

/-- A character that is neither comma nor bracket may stand before a piece. -/
theorem IsPiece.cons {c : CodePoint} {t : Text} (hc : IsPiece [c]) (ht : IsPiece t) :
    IsPiece (c :: t) :=
  hc.append ht

/-- A word is a piece. -/
theorem isPiece_of_isWord {t : Text} (h : t.IsWord) : IsPiece t :=
  isPiece_of_not_mem (h.not_mem (by decide)) (h.not_mem (by decide)) (h.not_mem (by decide))

/-- A gap is a piece. -/
theorem isPiece_of_isGap {t : Text} (h : t.IsGap) : IsPiece t :=
  isPiece_of_not_mem (h.not_mem (by decide)) (h.not_mem (by decide)) (h.not_mem (by decide))

/-- An annotation or a default: not empty, without a blank at either end, and not cut
by a list of pieces. -/
structure IsPart (t : Text) : Prop extends IsPiece t where
  ne_nil : t ≠ []
  isTrimmed : t.IsTrimmed

/-! ### The four forms -/

/-- **The texts that a parameter is written as**, the blanks around it apart. -/
inductive Written : Parameter → Text → Prop
  | bare {name : Text} (hname : name.IsWord) : Written ⟨name, none, none⟩ name
  | annotated {name type before after : Text} (hname : name.IsWord) (htype : IsPart type)
      (hsign : CodePoint.ofChar '=' ∉ type) (hbefore : before.IsGap) (hafter : after.IsGap) :
      Written ⟨name, some type, none⟩
        (name ++ (before ++ CodePoint.ofChar ':' :: (after ++ type)))
  | defaulted {name default before after : Text} (hname : name.IsWord) (hdefault : IsPart default)
      (hcolon : CodePoint.ofChar ':' ∉ default) (hbefore : before.IsGap) (hafter : after.IsGap) :
      Written ⟨name, none, some default⟩
        (name ++ (before ++ CodePoint.ofChar '=' :: (after ++ default)))
  | full {name type default before after before' after' : Text} (hname : name.IsWord)
      (htype : IsPart type) (hsign : CodePoint.ofChar '=' ∉ type) (hdefault : IsPart default)
      (hline : CodePoint.lineFeed ∉ default) (hbefore : before.IsGap) (hafter : after.IsGap)
      (hbefore' : before'.IsGap) (hafter' : after'.IsGap) :
      Written ⟨name, some type, some default⟩
        (name ++ (before ++ CodePoint.ofChar ':' ::
          (after ++ (type ++ (before' ++ CodePoint.ofChar '=' :: (after' ++ default))))))

namespace Written

variable {p : Parameter} {token : Text}

/-- The name of a written parameter is a word. -/
theorem isWord_name (h : Written p token) : p.name.IsWord := by
  cases h <;> assumption

/-- What a parameter is written as is not cut by a list of pieces. -/
theorem isPiece (h : Written p token) : IsPiece token := by
  have hcolon : IsPiece [CodePoint.ofChar ':'] :=
    isPiece_of_not_mem (by simp) (by simp) (by simp)
  have hsign : IsPiece [CodePoint.ofChar '='] :=
    isPiece_of_not_mem (by simp) (by simp) (by simp)
  cases h with
  | bare hname => exact isPiece_of_isWord hname
  | annotated hname htype _ hbefore hafter =>
    exact (isPiece_of_isWord hname).append ((isPiece_of_isGap hbefore).append
      (hcolon.cons ((isPiece_of_isGap hafter).append htype.toIsPiece)))
  | defaulted hname hdefault _ hbefore hafter =>
    exact (isPiece_of_isWord hname).append ((isPiece_of_isGap hbefore).append
      (hsign.cons ((isPiece_of_isGap hafter).append hdefault.toIsPiece)))
  | full hname htype _ hdefault _ hbefore hafter hbefore' hafter' =>
    exact (isPiece_of_isWord hname).append ((isPiece_of_isGap hbefore).append
      (hcolon.cons ((isPiece_of_isGap hafter).append (htype.toIsPiece.append
        ((isPiece_of_isGap hbefore').append
          (hsign.cons ((isPiece_of_isGap hafter').append hdefault.toIsPiece)))))))

/-- A written parameter has no blanks around it. -/
theorem isTrimmed (h : Written p token) : token.IsTrimmed := by
  cases h with
  | bare hname => exact hname.isTrimmed
  | @annotated name type before after hname htype =>
    have h := hname.isTrimmed.append_append hname.ne_nil htype.isTrimmed htype.ne_nil
      (before ++ CodePoint.ofChar ':' :: after)
    rwa [List.append_assoc, List.cons_append] at h
  | @defaulted name default before after hname hdefault =>
    have h := hname.isTrimmed.append_append hname.ne_nil hdefault.isTrimmed hdefault.ne_nil
      (before ++ CodePoint.ofChar '=' :: after)
    rwa [List.append_assoc, List.cons_append] at h
  | @full name type default before after before' after' hname _ _ hdefault =>
    have h := hname.isTrimmed.append_append hname.ne_nil hdefault.isTrimmed hdefault.ne_nil
      (before ++ CodePoint.ofChar ':' ::
        (after ++ (type ++ (before' ++ CodePoint.ofChar '=' :: after'))))
    simpa only [List.append_assoc, List.cons_append] using h

/-- A name with blanks behind it holds neither of the characters that end a name. -/
theorem headName_name_append {name gap rest : Text} (hname : name.IsWord) (hgap : gap.IsGap)
    (hrest : ∀ c ∈ rest.head?, c = CodePoint.ofChar ':' ∨ c = CodePoint.ofChar '=') :
    Parameter.headName (name ++ (gap ++ rest)) = name := by
  have hnot : ∀ c : CodePoint, c.isWord = false → c.isBlank = false → c ∉ name ++ gap :=
    fun c hword hblank hmem =>
      (List.mem_append.1 hmem).elim (hname.not_mem hword) (hgap.not_mem hblank)
  rw [← List.append_assoc, Parameter.headName_append (hnot _ (by decide) (by decide))
    (hnot _ (by decide) (by decide)) hrest, Text.trim_append_gap hname.isTrimmed hgap]

/-- **The name in front of what a parameter is written as is its name.** -/
theorem headName_eq (h : Written p token) : Parameter.headName token = p.name := by
  cases h with
  | bare hname =>
    have h : Parameter.headName (token ++ ([] ++ [])) = token :=
      headName_name_append hname Text.isGap_nil (by simp)
    rwa [List.append_nil, List.append_nil] at h
  | annotated hname _ _ hbefore => exact headName_name_append hname hbefore (by simp)
  | defaulted hname _ _ hbefore => exact headName_name_append hname hbefore (by simp)
  | full hname _ _ _ _ hbefore => exact headName_name_append hname hbefore (by simp)

/-- **What a parameter is written as is read as the parameter.** With an annotation
the reading succeeds at the name; without one there is no colon for it to find. -/
theorem ofToken?_eq (h : Written p token) : Parameter.ofToken? token = some p := by
  have hhead := h.headName_eq
  have hname := h.isWord_name
  cases h with
  | bare _ =>
    have hne : Parameter.headName token ≠ [] := by rw [hhead]; exact hname.ne_nil
    rw [Parameter.ofToken?_of_not_mem (hname.not_mem (by decide)),
      Parameter.plain?_of_not_mem hne (hname.not_mem (by decide)), hhead]
  | @annotated name type before after _ htype hsign hbefore hafter =>
    have hbody : after ++ type ≠ [] := fun h => htype.ne_nil (List.append_eq_nil_iff.1 h).2
    have hnot : CodePoint.ofChar '=' ∉ after ++ type :=
      fun hm => (List.mem_append.1 hm).elim (hafter.not_mem (by decide)) hsign
    have hread := Parameter.annotation?_of_type hbefore hbody hnot
    rw [Text.trim_gap_append hafter htype.isTrimmed] at hread
    exact Parameter.ofToken?_of_annotated? (Parameter.annotated?_append hname
      (hbefore.isWord_head?_append_cons (by decide) _) hread)
  | @defaulted name default before after _ hdefault hcolon hbefore hafter =>
    have hno : CodePoint.ofChar ':' ∉
        name ++ (before ++ CodePoint.ofChar '=' :: (after ++ default)) := by
      simp only [List.mem_append, List.mem_cons, not_or]
      exact ⟨hname.not_mem (by decide), hbefore.not_mem (by decide), by simp,
        hafter.not_mem (by decide), hcolon⟩
    have hnot : CodePoint.ofChar '=' ∉ name ++ before :=
      fun hm => (List.mem_append.1 hm).elim (hname.not_mem (by decide))
        (hbefore.not_mem (by decide))
    have htrim := Text.trim_gap_append hafter hdefault.isTrimmed
    rw [← List.append_assoc] at hhead hno ⊢
    rw [Parameter.ofToken?_of_not_mem hno,
      Parameter.plain?_of_default (by rw [hhead]; exact hname.ne_nil) hnot
        (by rw [htrim]; exact hdefault.ne_nil), htrim, hhead]
  | @full name type default before after before' after' _ htype hsign hdefault hline hbefore hafter
      hbefore' hafter' =>
    have hbody : after ++ (type ++ before') ≠ [] := fun h =>
      htype.ne_nil (List.append_eq_nil_iff.1 (List.append_eq_nil_iff.1 h).2).1
    have hnot : CodePoint.ofChar '=' ∉ after ++ (type ++ before') := by
      simp only [List.mem_append, not_or]
      exact ⟨hafter.not_mem (by decide), hsign, hbefore'.not_mem (by decide)⟩
    have hvalue : after' ++ default ≠ [] :=
      fun h => hdefault.ne_nil (List.append_eq_nil_iff.1 h).2
    have hstart : Text.trimStart (after' ++ default) = default :=
      Text.trimStart_gap_append hafter' hdefault.isTrimmed.head
    have hread := Parameter.annotation?_of_default hbefore hbody hnot hvalue (by rwa [hstart])
    rw [Text.trim_between hafter htype.isTrimmed hbefore',
      Text.trim_gap_append hafter' hdefault.isTrimmed, List.append_assoc,
      List.append_assoc] at hread
    exact Parameter.ofToken?_of_annotated? (Parameter.annotated?_append hname
      (hbefore.isWord_head?_append_cons (by decide) _) hread)

end Written

/-! ### Written lists -/

/-- **The pieces that a list of parameters is written as**: the parameters in order,
and between them blank pieces and receivers. -/
inductive Listing : List Parameter → List Text → Prop
  | nil : Listing [] []
  | blank {ps : List Parameter} {pieces : List Text} {gap : Text} (hgap : gap.IsGap)
      (h : Listing ps pieces) : Listing ps (gap :: pieces)
  | receiver {ps : List Parameter} {pieces : List Text} {p : Parameter} {before token after : Text}
      (hp : Written p token) (hname : p.name = Parameter.receiver) (hbefore : before.IsGap)
      (hafter : after.IsGap) (h : Listing ps pieces) :
      Listing ps ((before ++ (token ++ after)) :: pieces)
  | parameter {ps : List Parameter} {pieces : List Text} {p : Parameter} {before token after : Text}
      (hp : Written p token) (hname : p.name ≠ Parameter.receiver) (hbefore : before.IsGap)
      (hafter : after.IsGap) (h : Listing ps pieces) :
      Listing (p :: ps) ((before ++ (token ++ after)) :: pieces)

/-- A gap is no parameter. -/
theorem ofPiece?_gap {gap : Text} (hgap : gap.IsGap) : Parameter.ofPiece? gap = none := by
  unfold Parameter.ofPiece?
  simp only
  rw [if_pos (Or.inl (Text.trim_gap hgap))]

/-- A written parameter stands for itself among blanks, unless it is a receiver. -/
theorem Written.ofPiece?_eq {p : Parameter} {before token after : Text} (h : Written p token)
    (hbefore : before.IsGap) (hafter : after.IsGap) :
    Parameter.ofPiece? (before ++ (token ++ after)) =
      if p.name = Parameter.receiver then none else some p := by
  have hne : token ≠ [] := by
    rintro rfl
    have hhead := h.headName_eq
    exact h.isWord_name.ne_nil (hhead.symm.trans rfl)
  unfold Parameter.ofPiece?
  simp only
  rw [Text.trim_between hbefore h.isTrimmed hafter, h.headName_eq, h.ofToken?_eq]
  by_cases hname : p.name = Parameter.receiver
  · rw [if_pos (Or.inr hname), if_pos hname]
  · rw [if_neg (not_or_intro hne hname), if_neg hname]
    simp [hname]

namespace Listing

variable {ps : List Parameter} {pieces : List Text}

/-- The commas of a written list are those between its pieces. -/
theorem isPiece (h : Listing ps pieces) : ∀ piece ∈ pieces, IsPiece piece := by
  induction h with
  | nil => simp
  | blank hgap _ ih => exact List.forall_mem_cons.2 ⟨isPiece_of_isGap hgap, ih⟩
  | receiver hp _ hbefore hafter _ ih | parameter hp _ hbefore hafter _ ih =>
    exact List.forall_mem_cons.2
      ⟨(isPiece_of_isGap hbefore).append (hp.isPiece.append (isPiece_of_isGap hafter)), ih⟩

/-- **The pieces of a written list stand for its parameters**, in order. -/
theorem filterMap_ofPiece? (h : Listing ps pieces) :
    pieces.filterMap Parameter.ofPiece? = ps := by
  induction h with
  | nil => rfl
  | blank hgap _ ih => rw [List.filterMap_cons_none (ofPiece?_gap hgap), ih]
  | receiver hp hname hbefore hafter _ ih =>
    have hread := hp.ofPiece?_eq hbefore hafter
    rw [if_pos hname] at hread
    rw [List.filterMap_cons_none hread, ih]
  | parameter hp hname hbefore hafter _ ih =>
    have hread := hp.ofPiece?_eq hbefore hafter
    rw [if_neg hname] at hread
    rw [List.filterMap_cons_some hread, ih]

/-- The pieces that the join of a written list is cut into stand for its parameters.
Without pieces the join is empty, and it is cut into one blank piece. -/
theorem filterMap_splitParameters (h : Listing ps pieces) :
    (splitParameters (Text.join [CodePoint.ofChar ','] pieces)).filterMap Parameter.ofPiece? =
      ps := by
  unfold splitParameters
  cases pieces with
  | nil =>
    have hps : [] = ps := h.filterMap_ofPiece?
    have hnil : Parameter.ofPiece? [] = none := ofPiece?_gap Text.isGap_nil
    rw [← hps, Text.join, Text.splitOn, List.filterMap_cons_none hnil, List.filterMap_nil]
  | cons piece pieces =>
    rw [Text.splitOn_join (List.cons_ne_nil _ _) fun p hp => (h.isPiece p hp).no_comma]
    exact h.filterMap_ofPiece?

end Listing

/-- **Reading a written list of parameters gives the parameters back**, in order,
whatever stands before the first opening bracket and behind the closing one. -/
theorem parameters_of_listing {ps : List Parameter} {pieces : List Text} (h : Listing ps pieces)
    {before : Text} (hbefore : CodePoint.ofChar '(' ∉ before) (behind : Text) :
    parameters (before ++ CodePoint.ofChar '(' ::
      (Text.join [CodePoint.ofChar ','] pieces ++ CodePoint.ofChar ')' :: behind)) = ps := by
  have hcomma : Balanced [CodePoint.ofChar ','] := balanced_of_not_mem (by simp) (by simp)
  have hlist := hcomma.join fun piece hpiece => (h.isPiece piece hpiece).balanced
  unfold parameters
  rw [parameterList?_enclosed hbefore hlist]
  exact h.filterMap_splitParameters

/-- A method with its receiver, an annotated parameter with a call for its default,
and a trailing comma. -/
theorem parameters_of_listing_spawn :
    Listing [⟨"at", some ↑"Place", some ↑"f(x = 1)"⟩] ["self", " at: Place =f(x = 1)", ""] ∧
      CodePoint.ofChar '(' ∉ ("spawn" : Text) ∧
      parameters "spawn(self, at: Place =f(x = 1),) -> f(x)" =
        [⟨"at", some ↑"Place", some ↑"f(x = 1)"⟩] := by
  have hself : Written ⟨"self", none, none⟩ "self" := .bare (by decide)
  have hplace : IsPart "Place" := ⟨⟨by decide, by decide⟩, by decide, by decide⟩
  have hcall : IsPart "f(x = 1)" := ⟨⟨by decide, by decide⟩, by decide, by decide⟩
  have hat : Written ⟨"at", some ↑"Place", some ↑"f(x = 1)"⟩ "at: Place =f(x = 1)" :=
    @Written.full "at" "Place" "f(x = 1)" "" " " " " "" (by decide) hplace (by decide) hcall
      (by decide) (by decide) (by decide) (by decide) (by decide)
  have hlisting : Listing [⟨"at", some ↑"Place", some ↑"f(x = 1)"⟩]
      ["self", " at: Place =f(x = 1)", ""] :=
    @Listing.receiver _ _ _ "" "self" "" hself rfl (by decide) (by decide)
      (@Listing.parameter _ _ _ " " _ "" hat (by decide) (by decide) (by decide)
        (.blank (by decide) .nil))
  have hspawn : CodePoint.ofChar '(' ∉ ("spawn" : Text) := by decide
  exact ⟨hlisting, hspawn, parameters_of_listing hlisting hspawn " -> f(x)"⟩

end Signature
end ApiGuide
