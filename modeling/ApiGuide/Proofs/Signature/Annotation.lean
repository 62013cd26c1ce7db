/-
# Where an annotation is found

A token is read with an annotation if one of its colons is *admissible* (`Admits`):

| part of the token | condition |
| --- | --- |
| before the colon | ends with a word, blanks apart |
| behind it, up to the next equals sign | not empty |
| behind that sign, if there is one | not empty, and without a line break once it is trimmed |

The first such colon is taken, whatever word stands before it (`annotated?_eq_some_iff`):
where the colon behind the first word is not admissible, or where none follows, the
search goes on to the later words of the token, those of a default included.
-/

import ApiGuide.Proofs.Signature.Reading

namespace ApiGuide

namespace Parameter

variable {front behind token rest : Text} {c : CodePoint}

/-- A colon with these texts before and behind it may stand between a name and its
annotation. -/
structure Admits (front behind : Text) : Prop where
  word : front.trimEnd.trailingWord ≠ []
  type : Text.upTo '=' behind ≠ []
  default : ∀ value ∈ Text.after? '=' behind, value ≠ [] ∧ CodePoint.lineFeed ∉ value.trimStart

/-- The colon between two parts of a token is the first admissible one. -/
structure FirstColon (token front behind : Text) : Prop extends Admits front behind where
  text : token = front ++ CodePoint.ofChar ':' :: behind
  first : ∀ front' behind', token = front' ++ CodePoint.ofChar ':' :: behind' →
    Admits front' behind' → front.length ≤ front'.length

/-- The parameter around a colon: the word before it, the annotation up to the next
equals sign, and the default behind that sign. -/
def aroundColon (front behind : Text) : Parameter :=
  ⟨front.trimEnd.trailingWord, some (Text.upTo '=' behind).trim,
    (Text.after? '=' behind).map Text.trim⟩

/-- **A token has one first colon at most.** -/
theorem FirstColon.unique {front' behind' : Text} (h : FirstColon token front behind)
    (h' : FirstColon token front' behind') : front = front' ∧ behind = behind' := by
  have hle := h.first _ _ h'.text h'.toAdmits
  have hle' := h'.first _ _ h.text h.toAdmits
  obtain ⟨hfront, hcolon⟩ := List.append_inj (h.text.symm.trans h'.text) (by omega)
  exact ⟨hfront, (List.cons.inj hcolon).2⟩

/-! ### Directly behind a word -/

/-- **Behind a word there is an annotation** if a colon stands there, blanks apart, and
admits one. -/
theorem annotation?_eq_some_iff {type : Text} {default : Option Text} :
    annotation? rest = some (type, default) ↔ ∃ gap behind,
      rest = gap ++ CodePoint.ofChar ':' :: behind ∧ gap.IsGap ∧
      (Text.upTo '=' behind ≠ [] ∧
        ∀ value ∈ Text.after? '=' behind, value ≠ [] ∧ CodePoint.lineFeed ∉ value.trimStart) ∧
      (Text.upTo '=' behind).trim = type ∧ (Text.after? '=' behind).map Text.trim = default := by
  constructor
  · intro h
    have hsplit : rest.takeWhile CodePoint.isBlank ++ rest.trimStart = rest :=
      List.takeWhile_append_dropWhile
    have hgap : Text.IsGap (rest.takeWhile CodePoint.isBlank) :=
      fun c hc => List.mem_takeWhile_imp hc
    by_cases hcolon : rest.trimStart.head? = some (CodePoint.ofChar ':')
    · obtain ⟨behind, hbehind⟩ := List.head?_eq_some_iff.1 hcolon
      rw [hbehind] at hsplit
      rw [← hsplit] at h
      exact ⟨_, behind, hsplit.symm, hgap, (annotation?_gap_append hgap).1 h⟩
    · rw [annotation?_of_head? fun d hd hd' => hcolon (hd' ▸ hd)] at h
      exact absurd h.symm (Option.some_ne_none _)
  · rintro ⟨gap, behind, rfl, hgap, h⟩
    exact (annotation?_gap_append hgap).2 h

/-- An annotation behind the word that a token begins with is at the first colon: there
are only blanks between the two. -/
theorem firstColon_of_annotation? {type : Text} {default : Option Text} (hc : c.isWord = true)
    (h : annotation? (rest.dropWhile CodePoint.isWord) = some (type, default)) :
    ∃ front behind, FirstColon (c :: rest) front behind ∧
      aroundColon front behind = ⟨c :: rest.takeWhile CodePoint.isWord, some type, default⟩ := by
  obtain ⟨gap, behind, hrest, hgap, ⟨htype, hdefault⟩, rfl, rfl⟩ := annotation?_eq_some_iff.1 h
  have hword := Text.isWord_cons_takeWhile hc rest
  have hname : Text.trailingWord (Text.trimEnd
      ([] ++ (c :: rest.takeWhile CodePoint.isWord ++ gap))) = _ :=
    Text.trailingWord_trimEnd_append (by simp) hword hgap
  rw [List.nil_append] at hname
  have htext : c :: rest = (c :: rest.takeWhile CodePoint.isWord ++ gap) ++
      CodePoint.ofChar ':' :: behind := by
    rw [List.append_assoc, ← hrest, List.cons_append, List.takeWhile_append_dropWhile]
  have hcolon : CodePoint.ofChar ':' ∉ c :: rest.takeWhile CodePoint.isWord ++ gap := fun hm =>
    (List.mem_append.1 hm).elim (hword.not_mem (by decide)) (hgap.not_mem (by decide))
  refine ⟨_, behind, ⟨⟨?_, htype, hdefault⟩, htext, fun front' behind' htext' _ => ?_⟩, ?_⟩
  · rw [hname]
    exact List.cons_ne_nil _ _
  · exact Text.length_le_of_append_cons_eq (htext.symm.trans htext') hcolon
  · unfold aroundColon
    rw [hname]

/-! ### One character after another -/

/-- A colon stays admissible with more text before it. -/
theorem Admits.cons (h : Admits front behind) (c : CodePoint) : Admits (c :: front) behind := by
  refine ⟨?_, h.type, h.default⟩
  obtain ⟨lead, gap, hfront, hlead, hword, hgap⟩ :=
    Text.exists_of_trailingWord_trimEnd_ne_nil h.word
  -- The word before the colon changes only if it goes on with the new character.
  cases lead with
  | nil =>
    cases hc : c.isWord with
    | true =>
      have hlonger : Text.IsWord (c :: front.trimEnd.trailingWord) :=
        ⟨List.cons_ne_nil _ _, List.forall_mem_cons.2 ⟨hc, hword.isWord⟩⟩
      have hname := Text.trailingWord_trimEnd_append hlead hlonger hgap
      rw [List.nil_append, List.cons_append, ← List.nil_append (_ ++ gap), ← hfront] at hname
      rw [hname]
      exact hlonger.ne_nil
    | false =>
      have hname : Text.trailingWord (Text.trimEnd ([c] ++ (_ ++ gap))) = _ :=
        Text.trailingWord_trimEnd_append (by simpa using hc) hword hgap
      rw [List.singleton_append, ← List.nil_append (_ ++ gap), ← hfront] at hname
      rw [hname]
      exact hword.ne_nil
  | cons d lead =>
    have hname : Text.trailingWord (Text.trimEnd (c :: d :: lead ++ (_ ++ gap))) = _ :=
      Text.trailingWord_trimEnd_append (by rwa [List.getLast?_cons_cons]) hword hgap
    rw [List.cons_append, ← hfront] at hname
    rw [hname]
    exact hword.ne_nil

/-- A colon that is admissible in a token is so in the rest of it, with the same word
before it, unless it stands behind the word that the token begins with. -/
theorem Admits.of_cons (h : Admits (c :: front) behind)
    (hfirst : c.isWord = true →
      annotation? ((front ++ CodePoint.ofChar ':' :: behind).dropWhile CodePoint.isWord) = none) :
    Admits front behind ∧ aroundColon (c :: front) behind = aroundColon front behind := by
  obtain ⟨lead, gap, hfront, hlead, hword, hgap⟩ :=
    Text.exists_of_trailingWord_trimEnd_ne_nil h.word
  -- With nothing before it, the word is the one that the token begins with, and the search
  -- would have ended there.
  cases lead with
  | nil =>
    obtain ⟨d, tail, hname⟩ := List.exists_cons_of_ne_nil h.word
    rw [hname] at hfront hword
    rw [List.nil_append, List.cons_append] at hfront
    obtain ⟨rfl, rfl⟩ := List.cons.inj hfront
    have htail : ∀ e ∈ tail, e.isWord = true := fun e he =>
      hword.isWord e (List.mem_cons_of_mem _ he)
    have hhead : ∀ e ∈ (gap ++ CodePoint.ofChar ':' :: behind).head?, e.isWord = false :=
      hgap.isWord_head?_append_cons (by decide) behind
    have hnone := hfirst (hword.isWord c List.mem_cons_self)
    rw [List.append_assoc, Text.dropWhile_run htail hhead,
      (annotation?_gap_append hgap).2 ⟨⟨h.type, h.default⟩, rfl, rfl⟩] at hnone
    exact absurd hnone (Option.some_ne_none _)
  | cons d lead =>
    rw [List.cons_append] at hfront
    obtain ⟨rfl, hrest⟩ := List.cons.inj hfront
    have hname := Text.trailingWord_trimEnd_append (Text.forall_getLast?_of_cons hlead) hword hgap
    rw [← hrest] at hname
    refine ⟨⟨?_, h.type, h.default⟩, ?_⟩
    · rw [hname]
      exact h.word
    · unfold aroundColon
      rw [hname]

/-- The first colon of the rest of a token is that of the token, unless there is an
annotation behind the word that the token begins with. -/
theorem FirstColon.cons (h : FirstColon rest front behind)
    (hfirst : c.isWord = true → annotation? (rest.dropWhile CodePoint.isWord) = none) :
    FirstColon (c :: rest) (c :: front) behind ∧
      aroundColon (c :: front) behind = aroundColon front behind := by
  have hadmits := h.toAdmits.cons c
  refine ⟨⟨hadmits, congrArg (c :: ·) h.text, fun front' behind' htext hadmits' => ?_⟩,
    (hadmits.of_cons (h.text ▸ hfirst)).2⟩
  cases front' with
  | nil => exact absurd rfl hadmits'.word
  | cons d front' =>
    rw [List.cons_append] at htext
    obtain ⟨rfl, hrest⟩ := List.cons.inj htext
    have hle := h.first front' behind' hrest (hadmits'.of_cons (hrest ▸ hfirst)).1
    simpa using hle

/-- The search goes on behind a character that is not the first of a word with an
annotation. -/
theorem annotated?_cons_of_none
    (h : c.isWord = true → annotation? (rest.dropWhile CodePoint.isWord) = none) :
    annotated? (c :: rest) = annotated? rest := by
  rw [annotated?]
  split
  · rename_i hc
    rw [h hc]
  · rfl

/-- **A token is read around its first colon**, and without one it is not read with an
annotation. -/
theorem annotated?_cases (token : Text) :
    (∃ front behind, FirstColon token front behind ∧
      annotated? token = some (aroundColon front behind)) ∨
    (annotated? token = none ∧ ∀ front behind,
      token = front ++ CodePoint.ofChar ':' :: behind → ¬ Admits front behind) := by
  induction token with
  | nil => exact Or.inr ⟨rfl, fun front behind h => by simp at h⟩
  | cons c rest ih =>
    by_cases hread : c.isWord = true ∧
        (annotation? (rest.dropWhile CodePoint.isWord)).isSome = true
    · obtain ⟨hc, hsome⟩ := hread
      obtain ⟨⟨type, default⟩, hfound⟩ := Option.isSome_iff_exists.1 hsome
      obtain ⟨front, behind, hfirst, hcolon⟩ := firstColon_of_annotation? hc hfound
      exact Or.inl ⟨front, behind, hfirst, by rw [annotated?, if_pos hc, hfound, hcolon]⟩
    · have hnone : c.isWord = true → annotation? (rest.dropWhile CodePoint.isWord) = none :=
        fun hc => Option.not_isSome_iff_eq_none.1 fun hsome => hread ⟨hc, hsome⟩
      rw [annotated?_cons_of_none hnone]
      rcases ih with ⟨front, behind, hfirst, hrest⟩ | ⟨hrest, hno⟩
      · obtain ⟨hfirst', hcolon⟩ := hfirst.cons hnone
        exact Or.inl ⟨_, behind, hfirst', hcolon ▸ hrest⟩
      · refine Or.inr ⟨hrest, fun front behind htext hadmits => ?_⟩
        cases front with
        | nil => exact hadmits.word rfl
        | cons d front =>
          rw [List.cons_append] at htext
          obtain ⟨rfl, hfront⟩ := List.cons.inj htext
          exact hno front behind hfront (hadmits.of_cons (hfront ▸ hnone)).1

/-- **The reading with an annotation** is the one around the first colon. -/
theorem annotated?_eq_some_iff {p : Parameter} :
    annotated? token = some p ↔
      ∃ front behind, FirstColon token front behind ∧ aroundColon front behind = p := by
  rcases annotated?_cases token with ⟨front, behind, hfirst, hread⟩ | ⟨hread, hno⟩
  · rw [hread, Option.some_inj]
    constructor
    · exact fun h => ⟨front, behind, hfirst, h⟩
    · rintro ⟨front', behind', hfirst', h⟩
      obtain ⟨rfl, rfl⟩ := hfirst.unique hfirst'
      exact h
  · rw [hread]
    constructor
    · exact fun h => absurd h.symm (Option.some_ne_none p)
    · rintro ⟨front, behind, hfirst, -⟩
      exact absurd hfirst.toAdmits (hno front behind hfirst.text)

/-- Without a first colon there is no annotation. -/
theorem annotated?_eq_none_iff :
    annotated? token = none ↔ ∀ front behind, ¬ FirstColon token front behind := by
  rw [Option.eq_none_iff_forall_ne_some]
  constructor
  · exact fun h front behind hfirst => h _ (annotated?_eq_some_iff.2 ⟨front, behind, hfirst, rfl⟩)
  · intro h p hp
    obtain ⟨front, behind, hfirst, -⟩ := annotated?_eq_some_iff.1 hp
    exact h front behind hfirst

end Parameter
end ApiGuide
