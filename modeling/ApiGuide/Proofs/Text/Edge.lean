/-
# Words and blanks at the edges of a text

What trimming and the trailing word give for a text that is put together from
words, blanks and other characters. No character is both a word character and
blank (`CodePoint.isWord_of_isBlank`), so a scan for one class stops where the
other begins: `takeWhile_run` and `dropWhile_run` say so from the left,
`takeEndWhile_run` and `dropEndWhile_run` from the right, and `trim_between`
takes the blanks off around a trimmed text.
-/

import ApiGuide.Text.Trim
import Mathlib.Data.List.TakeWhile

namespace ApiGuide

/-! ### Classes of characters -/

/-- A range that holds a number is one of the list, and the number lies in it. -/
theorem Ranges.exists_of_holds {ranges : Ranges} {n : Nat} (h : ranges.holds n = true) :
    ∃ range ∈ ranges, range.1 ≤ n ∧ n ≤ range.2 := by
  induction ranges with
  | nil => simp [Ranges.holds, Ranges.start?] at h
  | cons range rest ih =>
    obtain ⟨first, last⟩ := range
    unfold Ranges.holds Ranges.start? at h
    split at h
    · simp at h
    · split at h
      · rename_i hfirst hlast
        exact ⟨(first, last), List.mem_cons_self, by omega, hlast⟩
      · obtain ⟨range, hmem, hin⟩ := ih h
        exact ⟨range, List.mem_cons_of_mem _ hmem, hin⟩

/-- No member of a range of blanks is a word character. -/
theorem holds_wordRanges_of_mem_blankRanges :
    ∀ range ∈ blankRanges, ∀ n ∈ List.range' range.1 (range.2 + 1 - range.1),
      wordRanges.holds n = false := by
  decide +kernel

/-- **Blanks are no word characters.** -/
theorem CodePoint.isWord_of_isBlank {c : CodePoint} (h : c.isBlank = true) : c.isWord = false := by
  obtain ⟨range, hmem, hfirst, hlast⟩ := Ranges.exists_of_holds h
  refine holds_wordRanges_of_mem_blankRanges range hmem c.val ?_
  rw [List.mem_range'_1]
  omega

/-- A character of a word is no blank. -/
theorem CodePoint.isBlank_of_isWord {c : CodePoint} (h : c.isWord = true) : c.isBlank = false := by
  cases hb : c.isBlank with
  | false => rfl
  | true => rw [CodePoint.isWord_of_isBlank hb] at h; exact absurd h Bool.false_ne_true

namespace Text

/-- A text of word characters, one at least. -/
structure IsWord (t : Text) : Prop where
  ne_nil : t ≠ []
  isWord : ∀ c ∈ t, c.isWord = true

/-- A text of blanks, none at all included. -/
def IsGap (t : Text) : Prop := ∀ c ∈ t, c.isBlank = true

/-- A text that neither begins nor ends with a blank. -/
structure IsTrimmed (t : Text) : Prop where
  head : ∀ c ∈ t.head?, c.isBlank = false
  last : ∀ c ∈ t.getLast?, c.isBlank = false

instance (t : Text) : Decidable (IsGap t) := inferInstanceAs (Decidable (∀ c ∈ t, c.isBlank = true))

instance (t : Text) : Decidable (IsWord t) :=
  decidable_of_iff (t ≠ [] ∧ ∀ c ∈ t, c.isWord = true) ⟨fun h => ⟨h.1, h.2⟩, fun h => ⟨h.1, h.2⟩⟩

instance (t : Text) : Decidable (IsTrimmed t) :=
  decidable_of_iff ((∀ c ∈ t.head?, c.isBlank = false) ∧ ∀ c ∈ t.getLast?, c.isBlank = false)
    ⟨fun h => ⟨h.1, h.2⟩, fun h => ⟨h.1, h.2⟩⟩

/-- A word does not hold a character that is no word character. -/
theorem IsWord.not_mem {t : Text} (h : t.IsWord) {c : CodePoint} (hc : c.isWord = false) : c ∉ t :=
  fun hmem => by rw [h.isWord c hmem] at hc; exact absurd hc.symm Bool.false_ne_true

/-- A gap does not hold a character that is not blank. -/
theorem IsGap.not_mem {t : Text} (h : t.IsGap) {c : CodePoint} (hc : c.isBlank = false) : c ∉ t :=
  fun hmem => by rw [h c hmem] at hc; exact absurd hc.symm Bool.false_ne_true

/-- No character of a gap belongs to a word. -/
theorem IsGap.isWord {t : Text} (h : t.IsGap) {c : CodePoint} (hc : c ∈ t) : c.isWord = false :=
  CodePoint.isWord_of_isBlank (h c hc)

/-- A word has no blanks around it. -/
theorem IsWord.isTrimmed {t : Text} (h : t.IsWord) : t.IsTrimmed :=
  ⟨fun c hc => CodePoint.isBlank_of_isWord (h.isWord c (List.mem_of_mem_head? hc)),
    fun c hc => CodePoint.isBlank_of_isWord (h.isWord c (List.mem_of_mem_getLast? hc))⟩

/-- A word is one backwards. -/
theorem IsWord.reverse {t : Text} (h : t.IsWord) : IsWord t.reverse :=
  ⟨List.reverse_ne_nil_iff.2 h.ne_nil, fun c hc => h.isWord c (List.mem_reverse.1 hc)⟩

/-- A text that begins with a word begins with no blank. -/
theorem IsWord.isBlank_of_mem_head? {t : Text} (h : t.IsWord) (rest : Text) :
    ∀ c ∈ (t ++ rest).head?, c.isBlank = false := by
  obtain ⟨d, t, rfl⟩ := List.exists_cons_of_ne_nil h.ne_nil
  intro c hc
  obtain rfl := Option.some.inj hc
  exact CodePoint.isBlank_of_isWord (h.isWord d List.mem_cons_self)

/-- A text that ends with a word ends with no blank. -/
theorem IsWord.isBlank_of_mem_getLast? {t : Text} (h : t.IsWord) (lead : Text) :
    ∀ c ∈ (lead ++ t).getLast?, c.isBlank = false := by
  intro c hc
  rw [← List.head?_reverse, List.reverse_append] at hc
  exact h.reverse.isBlank_of_mem_head? lead.reverse c hc

/-- The empty text is a gap. -/
theorem isGap_nil : IsGap [] := fun _ hc => absurd hc List.not_mem_nil

/-- A word character and those that follow it are a word. -/
theorem isWord_cons_takeWhile {c : CodePoint} (hc : c.isWord = true) (t : Text) :
    IsWord (c :: t.takeWhile CodePoint.isWord) :=
  ⟨List.cons_ne_nil _ _, List.forall_mem_cons.2 ⟨hc, fun _ hd => List.mem_takeWhile_imp hd⟩⟩

/-- Blanks before a character that is no word character do not go on with a word. -/
theorem IsGap.isWord_head?_append_cons {gap : Text} (h : gap.IsGap) {c : CodePoint}
    (hc : c.isWord = false) (rest : Text) : ∀ d ∈ (gap ++ c :: rest).head?, d.isWord = false := by
  cases gap with
  | nil =>
    rintro d ⟨⟩
    exact hc
  | cons e gap => exact fun d hd => h.isWord (List.mem_of_mem_head? hd)

/-- What holds of the last character holds of it without the first one. -/
theorem forall_getLast?_of_cons {p : CodePoint → Prop} {c : CodePoint} {t : Text}
    (h : ∀ d ∈ (c :: t).getLast?, p d) : ∀ d ∈ t.getLast?, p d := by
  cases t with
  | nil => simp
  | cons e t => rwa [List.getLast?_cons_cons] at h

/-! ### Runs of a class -/

variable {p : CodePoint → Bool} {run rest lead : Text}

/-- **A run is taken whole**, up to a character out of its class. -/
theorem takeWhile_run (hrun : ∀ c ∈ run, p c = true) (hrest : ∀ c ∈ rest.head?, p c = false) :
    (run ++ rest).takeWhile p = run := by
  rw [List.takeWhile_append_of_pos hrun]
  cases rest with
  | nil => simp
  | cons c rest => rw [List.takeWhile_cons_of_neg (by simp [hrest c rfl]), List.append_nil]

/-- **A run is dropped whole** before a character out of its class. -/
theorem dropWhile_run (hrun : ∀ c ∈ run, p c = true) (hrest : ∀ c ∈ rest.head?, p c = false) :
    (run ++ rest).dropWhile p = rest := by
  rw [List.dropWhile_append_of_pos hrun]
  cases rest with
  | nil => simp
  | cons c rest => rw [List.dropWhile_cons_of_neg (by simp [hrest c rfl])]

/-- What is left behind a run begins with a character out of its class. -/
theorem head?_dropWhile (p : CodePoint → Bool) (t : Text) :
    ∀ c ∈ (t.dropWhile p).head?, p c = false := by
  intro c hc
  have h := List.head?_dropWhile_not p t
  rw [Option.mem_def.1 hc] at h
  simpa using h

/-- **A run at the end is taken whole**, down to a character out of its class. -/
theorem takeEndWhile_run (hrun : ∀ c ∈ run, p c = true) (hlead : ∀ c ∈ lead.getLast?, p c = false) :
    takeEndWhile p (lead ++ run) = run := by
  unfold takeEndWhile
  rw [List.reverse_append, takeWhile_run (fun c hc => hrun c (List.mem_reverse.1 hc)),
    List.reverse_reverse]
  rwa [List.head?_reverse]

/-- **A run at the end is dropped whole** behind a character out of its class. -/
theorem dropEndWhile_run (hrun : ∀ c ∈ run, p c = true) (hlead : ∀ c ∈ lead.getLast?, p c = false) :
    dropEndWhile p (lead ++ run) = lead := by
  unfold dropEndWhile
  rw [List.reverse_append, dropWhile_run (fun c hc => hrun c (List.mem_reverse.1 hc)),
    List.reverse_reverse]
  rwa [List.head?_reverse]

/-- **The run at the end of a text, and what stands before it, are determined by the text.** -/
theorem eq_of_append_run {lead' run' : Text} (h : lead ++ run = lead' ++ run')
    (hrun : ∀ c ∈ run, p c = true) (hrun' : ∀ c ∈ run', p c = true)
    (hlead : ∀ c ∈ lead.getLast?, p c = false) (hlead' : ∀ c ∈ lead'.getLast?, p c = false) :
    lead = lead' ∧ run = run' := by
  refine ⟨?_, ?_⟩
  · rw [← dropEndWhile_run hrun hlead, h, dropEndWhile_run hrun' hlead']
  · rw [← takeEndWhile_run hrun hlead, h, takeEndWhile_run hrun' hlead']

/-- A text without its run of a class at the end does not end with that class. -/
theorem getLast?_dropEndWhile (p : CodePoint → Bool) (t : Text) :
    ∀ c ∈ (t.dropEndWhile p).getLast?, p c = false := by
  unfold dropEndWhile
  rw [List.getLast?_reverse]
  exact head?_dropWhile p t.reverse

/-- A run at the end consists of its class. -/
theorem of_mem_takeEndWhile {p : CodePoint → Bool} {t : Text} {c : CodePoint}
    (h : c ∈ t.takeEndWhile p) : p c = true :=
  List.mem_takeWhile_imp (List.mem_reverse.1 h)

/-! ### Trimming -/

/-- What is left without blanks in front is a part of the text. -/
theorem trimStart_subset (t : Text) : trimStart t ⊆ t := (List.dropWhile_sublist _).subset

/-- What is left without blanks around it is a part of the text. -/
theorem trim_subset (t : Text) : trim t ⊆ t := by
  unfold trim trimEnd dropEndWhile
  intro c hc
  have hdrop := (List.dropWhile_sublist _).subset (List.mem_reverse.1 hc)
  exact trimStart_subset t (List.mem_reverse.1 hdrop)

/-- A gap in front is dropped, up to the first character that is no blank. -/
theorem trimStart_gap_append {gap t : Text} (hgap : gap.IsGap)
    (ht : ∀ c ∈ t.head?, c.isBlank = false) : trimStart (gap ++ t) = t :=
  dropWhile_run hgap ht

/-- A gap at the end is dropped, down to the last character that is no blank. -/
theorem trimEnd_append_gap {t gap : Text} (hgap : gap.IsGap)
    (ht : ∀ c ∈ t.getLast?, c.isBlank = false) : trimEnd (t ++ gap) = t :=
  dropEndWhile_run hgap ht

/-- Of a gap nothing is left. -/
theorem trim_gap {gap : Text} (hgap : gap.IsGap) : trim gap = [] := by
  have h : trimStart gap = [] := by
    have := trimStart_gap_append (t := []) hgap (by simp)
    rwa [List.append_nil] at this
  unfold trim
  rw [h]
  rfl

/-- **Trimming takes off the blanks around a trimmed text, and nothing else.** -/
theorem trim_between {before t after : Text} (hbefore : before.IsGap) (ht : t.IsTrimmed)
    (hafter : after.IsGap) : trim (before ++ (t ++ after)) = t := by
  cases t with
  | nil =>
    rw [List.nil_append]
    exact trim_gap fun c hc => (List.mem_append.1 hc).elim (hbefore c) (hafter c)
  | cons c t =>
    have hhead : ∀ d ∈ (c :: t ++ after).head?, d.isBlank = false := ht.head
    unfold trim
    rw [trimStart_gap_append hbefore hhead, trimEnd_append_gap hafter ht.last]

/-- A gap in front of a trimmed text is dropped. -/
theorem trim_gap_append {gap t : Text} (hgap : gap.IsGap) (ht : t.IsTrimmed) :
    trim (gap ++ t) = t := by
  have h := trim_between hgap ht isGap_nil
  rwa [List.append_nil] at h

/-- A gap behind a trimmed text is dropped. -/
theorem trim_append_gap {t gap : Text} (ht : t.IsTrimmed) (hgap : gap.IsGap) :
    trim (t ++ gap) = t :=
  trim_between isGap_nil ht hgap

/-- A trimmed text is left as it is. -/
theorem trim_of_isTrimmed {t : Text} (h : t.IsTrimmed) : trim t = t := by
  have htrim := trim_append_gap h isGap_nil
  rwa [List.append_nil] at htrim

/-- **Trimming takes off blanks alone.** -/
theorem exists_eq_trim (t : Text) :
    ∃ before after, t = before ++ (t.trim ++ after) ∧ before.IsGap ∧ after.IsGap := by
  refine ⟨t.takeWhile CodePoint.isBlank, t.trimStart.takeEndWhile CodePoint.isBlank, ?_,
    fun c hc => List.mem_takeWhile_imp hc, fun c hc => of_mem_takeEndWhile hc⟩
  have hend : t.trim ++ t.trimStart.takeEndWhile CodePoint.isBlank = t.trimStart :=
    dropEndWhile_append_takeEndWhile CodePoint.isBlank t.trimStart
  rw [hend]
  exact List.takeWhile_append_dropWhile.symm

/-- **Trimming leaves no blank at either end.** -/
theorem isTrimmed_trim (t : Text) : t.trim.IsTrimmed := by
  refine ⟨fun c hc => head?_dropWhile CodePoint.isBlank t c ?_, getLast?_dropEndWhile _ _⟩
  have hend : t.trim ++ t.trimStart.takeEndWhile CodePoint.isBlank = t.trimStart :=
    dropEndWhile_append_takeEndWhile CodePoint.isBlank t.trimStart
  show c ∈ t.trimStart.head?
  rw [← hend, List.head?_append, Option.mem_def.1 hc, Option.some_or]
  rfl

/-- Blanks before a text make no difference to what trimming leaves of it. -/
theorem trimStart_append_of_isGap {gap : Text} (hgap : gap.IsGap) (t : Text) :
    trimStart (gap ++ t) = trimStart t :=
  List.dropWhile_append_of_pos hgap

/-- A gap in front makes no difference. -/
theorem trim_append_of_isGap {gap : Text} (hgap : gap.IsGap) (t : Text) :
    trim (gap ++ t) = trim t := by
  unfold trim
  rw [trimStart_append_of_isGap hgap]

/-- Blanks around a text make no difference to what trimming leaves of it. -/
theorem trim_append_append_of_isGap {before after : Text} (hbefore : before.IsGap)
    (hafter : after.IsGap) (t : Text) : trim (before ++ (t ++ after)) = trim t := by
  obtain ⟨lead, tail, ht, hlead, htail⟩ := exists_eq_trim t
  have hafter' : IsGap (tail ++ after) :=
    fun c hc => (List.mem_append.1 hc).elim (htail c) (hafter c)
  have h := trim_between hlead (isTrimmed_trim t) hafter'
  rwa [← List.append_assoc t.trim, ← List.append_assoc lead, ← ht,
    ← trim_append_of_isGap hbefore] at h

/-- A text that does not end with a blank is not blank. -/
theorem trim_ne_nil {t : Text} (hne : t ≠ []) (hlast : ∀ c ∈ t.getLast?, c.isBlank = false) :
    trim t ≠ [] := by
  intro hnil
  obtain ⟨before, after, hsplit, hbefore, hafter⟩ := exists_eq_trim t
  rw [hnil, List.nil_append] at hsplit
  have hmem : t.getLast hne ∈ before ++ after := hsplit ▸ List.getLast_mem hne
  have hblank := (List.mem_append.1 hmem).elim (hbefore _) (hafter _)
  rw [hlast _ (List.getLast?_eq_some_getLast hne)] at hblank
  exact Bool.false_ne_true hblank

/-- Something is left of a text that does not end with a blank. -/
theorem trimStart_ne_nil {t : Text} (hne : t ≠ [])
    (hlast : ∀ c ∈ t.getLast?, c.isBlank = false) : trimStart t ≠ [] := by
  intro hnil
  refine trim_ne_nil hne hlast ?_
  unfold trim
  rw [hnil]
  rfl

/-- The end of a text ends as the text does. -/
theorem forall_getLast?_of_append {p : CodePoint → Prop} (front : Text) {back : Text}
    (hback : back ≠ []) (h : ∀ c ∈ (front ++ back).getLast?, p c) :
    ∀ c ∈ back.getLast?, p c := by
  rwa [List.getLast?_append, List.getLast?_eq_some_getLast hback, Option.some_or,
    ← List.getLast?_eq_some_getLast hback] at h

/-- What a trimmed text ends with is not blank. -/
theorem IsTrimmed.trim_ne_nil {front back : Text} (h : IsTrimmed (front ++ back))
    (hback : back ≠ []) : trim back ≠ [] :=
  Text.trim_ne_nil hback (forall_getLast?_of_append front hback h.last)

/-- **The word before blanks at the end** of a text. -/
theorem trailingWord_trimEnd_append {lead word gap : Text}
    (hlead : ∀ c ∈ lead.getLast?, c.isWord = false) (hword : word.IsWord) (hgap : gap.IsGap) :
    (lead ++ (word ++ gap)).trimEnd.trailingWord = word := by
  rw [← List.append_assoc, trimEnd_append_gap hgap (hword.isBlank_of_mem_getLast? lead)]
  exact takeEndWhile_run hword.isWord hlead

/-- What stands before the word that a text ends with, blanks at the end apart. -/
theorem exists_of_trailingWord_trimEnd_ne_nil {t : Text} (h : t.trimEnd.trailingWord ≠ []) :
    ∃ lead gap, t = lead ++ (t.trimEnd.trailingWord ++ gap) ∧
      (∀ c ∈ lead.getLast?, c.isWord = false) ∧ t.trimEnd.trailingWord.IsWord ∧ gap.IsGap := by
  refine ⟨t.trimEnd.dropEndWhile CodePoint.isWord, t.takeEndWhile CodePoint.isBlank, ?_,
    getLast?_dropEndWhile _ _, ⟨h, fun c hc => of_mem_takeEndWhile hc⟩,
    fun c hc => of_mem_takeEndWhile hc⟩
  calc t = t.trimEnd ++ t.takeEndWhile CodePoint.isBlank :=
        (dropEndWhile_append_takeEndWhile _ t).symm
    _ = t.trimEnd.dropEndWhile CodePoint.isWord ++ t.trimEnd.trailingWord ++
          t.takeEndWhile CodePoint.isBlank :=
        congrArg (· ++ _) (dropEndWhile_append_takeEndWhile _ t.trimEnd).symm
    _ = _ := List.append_assoc ..

/-- A text is trimmed if it begins with one trimmed text and ends with another. -/
theorem IsTrimmed.append_append {s t : Text} (hs : s.IsTrimmed) (hs' : s ≠ []) (ht : t.IsTrimmed)
    (ht' : t ≠ []) (middle : Text) : IsTrimmed (s ++ (middle ++ t)) := by
  refine ⟨?_, ?_⟩
  · obtain ⟨c, s, rfl⟩ := List.exists_cons_of_ne_nil hs'
    exact hs.head
  · rw [← List.append_assoc, List.getLast?_append, List.getLast?_eq_some_getLast ht',
      Option.some_or, ← List.getLast?_eq_some_getLast ht']
    exact ht.last

end Text
end ApiGuide
