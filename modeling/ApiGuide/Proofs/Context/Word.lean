/-
# Where words are found, and the receivers before them

A position touches a word if a word character stands there or right before. Then one
whole word of the line is over the position (`exists_run`, `Run.IsWhole.unique`), and
this is the word that is found there (`wordAt_run`); otherwise none is found
(`wordAt_of_not_touches`).

The receiver that comes with the word is named before the last dot up to the position:
it is the word that the text left of the dot ends with, blanks apart
(`receiverGuess?_eq_some_iff`).
-/

import ApiGuide.Proofs.Context.Run

namespace ApiGuide

namespace Context

/-! ### Words at a position -/

/-- A word character stands at the position or right before it. -/
def Touches (current : Text) (k : Nat) : Prop :=
  current[k]?.any CodePoint.isWord = true ∨ 0 < k ∧ current[k - 1]?.any CodePoint.isWord = true

instance (current : Text) (k : Nat) : Decidable (Touches current k) :=
  inferInstanceAs (Decidable (_ ∨ _ ∧ _))

variable {current : Text} {k : Nat}

/-- **A word character belongs to a whole word.** -/
theorem exists_run_of_getElem? {i : Nat} {c : CodePoint} (h : current[i]? = some c)
    (hc : c.isWord = true) :
    ∃ run : Run, run.line = current ∧ run.IsWhole ∧ run.start ≤ i ∧ i < run.stop := by
  obtain ⟨hi, rfl⟩ := List.getElem?_eq_some_iff.1 h
  have hdrop : current.drop i = current[i] :: current.drop (i + 1) := List.drop_eq_getElem_cons hi
  have hcut := Text.dropEndWhile_append_takeEndWhile CodePoint.isWord (current.take i)
  have hlength := congrArg List.length hcut
  rw [List.length_append, List.length_take_of_le hi.le] at hlength
  refine ⟨⟨Text.dropEndWhile CodePoint.isWord (current.take i),
    Text.takeEndWhile CodePoint.isWord (current.take i) ++
      (current.drop i).takeWhile CodePoint.isWord,
    (current.drop i).dropWhile CodePoint.isWord⟩, ?_, ⟨⟨?_, ?_⟩, ?_, ?_⟩, ?_, ?_⟩
  · unfold Run.line
    simp only
    rw [List.append_assoc, List.takeWhile_append_dropWhile, ← List.append_assoc, hcut,
      List.take_append_drop]
  · rw [hdrop, List.takeWhile_cons_of_pos hc]
    simp
  · intro d hd
    rcases List.mem_append.1 hd with hd | hd
    · exact Text.of_mem_takeEndWhile hd
    · exact List.mem_takeWhile_imp hd
  · exact Text.getLast?_dropEndWhile _ _
  · exact Text.head?_dropWhile _ _
  · unfold Run.start
    simp only
    omega
  · unfold Run.stop
    simp only
    rw [hdrop, List.takeWhile_cons_of_pos hc, List.length_append, List.length_cons]
    omega

/-- **A whole word is over a position that touches one.** -/
theorem exists_run (h : Touches current k) :
    ∃ run : Run, run.line = current ∧ run.IsWhole ∧ run.Holds k := by
  rcases h with h | ⟨hk, h⟩
  · obtain ⟨c, hline, hc⟩ := (Option.any_eq_true _ _).1 h
    obtain ⟨run, hrun, hwhole, hstart, hstop⟩ := exists_run_of_getElem? hline hc
    exact ⟨run, hrun, hwhole, by unfold Run.Holds; omega⟩
  · obtain ⟨c, hline, hc⟩ := (Option.any_eq_true _ _).1 h
    obtain ⟨run, hrun, hwhole, hstart, hstop⟩ := exists_run_of_getElem? hline hc
    exact ⟨run, hrun, hwhole, by unfold Run.Holds; omega⟩

/-- Up to a position over a word, a line is what stands before the word and the front
of the word. -/
theorem Run.Holds.take_line {run : Run} (hk : run.Holds k) :
    run.line.take k = run.before ++ run.word.take (k - run.start) := by
  obtain ⟨hstart, hstop⟩ := hk
  rw [Run.take_line (by omega), List.take_append_of_le_length]
  unfold Run.start Run.stop at *
  omega

/-- **One whole word at most is over a position.** -/
theorem Run.IsWhole.unique {run run' : Run} (h : run.IsWhole) (h' : run'.IsWhole)
    (hline : run.line = run'.line) (hk : run.Holds k) (hk' : run'.Holds k) : run = run' := by
  have htake : run.before ++ run.word.take (k - run.start) =
      run'.before ++ run'.word.take (k - run'.start) := by
    rw [← hk.take_line, ← hk'.take_line, hline]
  obtain ⟨hbefore, -⟩ := Text.eq_of_append_run htake
    (fun c hc => h.word.isWord c (List.mem_of_mem_take hc))
    (fun c hc => h'.word.isWord c (List.mem_of_mem_take hc)) h.before h'.before
  have hrest : run.word ++ run.behind = run'.word ++ run'.behind := by
    unfold Run.line at hline
    rw [hbefore] at hline
    exact List.append_cancel_left hline
  have hword : run.word = run'.word := by
    rw [← Text.takeWhile_run h.word.isWord h.behind, hrest,
      Text.takeWhile_run h'.word.isWord h'.behind]
  have hbehind : run.behind = run'.behind := by
    rw [← Text.dropWhile_run h.word.isWord h.behind, hrest,
      Text.dropWhile_run h'.word.isWord h'.behind]
  cases run
  cases run'
  simp only at hbefore hword hbehind
  rw [hbefore, hword, hbehind]

/-- **At a position over a whole word, that word is found**, with the receiver that is
guessed there. -/
theorem wordAt_run {run : Run} (h : run.IsWhole) {cursor : Int}
    (hk : run.Holds (clamp run.line cursor)) :
    wordAt run.line cursor = .word run.word (receiverGuess? run.line (clamp run.line cursor)) := by
  have hfound := h.wordOver?_words hk
  rw [Int.toNat_natCast] at hfound
  unfold wordAt
  rw [hfound]

/-- **At a position that touches no word, none is found.** -/
theorem wordAt_of_not_touches {cursor : Int} (h : ¬ Touches current (clamp current cursor)) :
    wordAt current cursor = .nothing := by
  unfold wordAt
  cases hfound : Text.wordOver? (clamp current cursor) (Text.words 0 current) with
  | none => rfl
  | some word =>
    obtain ⟨i, c, hi, hline, hc⟩ := Text.exists_of_wordOver?_words hfound
    have hany : current[i]?.any CodePoint.isWord = true := (Option.any_eq_true _ _).2 ⟨c, hline, hc⟩
    rcases hi with hi | hi
    · obtain rfl : i = clamp current cursor - 1 := by omega
      exact absurd (Or.inr ⟨by omega, hany⟩) h
    · obtain rfl : i = clamp current cursor := by omega
      exact absurd (Or.inl hany) h

/-! ### The receiver -/

/-- A dot stands at position `d`, and none behind it up to position `k`. -/
structure IsLastDot (current : Text) (k d : Nat) : Prop where
  le : d ≤ k
  dot : current[d]? = some (CodePoint.ofChar '.')
  last : ∀ i, i ≤ k → d < i → current[i]? ≠ some (CodePoint.ofChar '.')

/-- The word that the text left of a position ends with, blanks at its end apart. -/
def wordLeftOf (current : Text) (d : Nat) : Text := (Text.trimEnd (current.take d)).trailingWord

/-- **What stands before the last dot up to a position.** -/
theorem beforeLast?_take_eq_some_iff {t : Text} :
    Text.beforeLast? (CodePoint.ofChar '.') (current.take (k + 1)) = some t ↔
      ∃ d, IsLastDot current k d ∧ current.take d = t := by
  rw [Text.beforeLast?_eq_some_iff]
  constructor
  · rintro ⟨rest, hcut, hrest⟩
    have hat : ∀ i, i ≤ k → current[i]? = (t ++ CodePoint.ofChar '.' :: rest)[i]? := by
      intro i hi
      rw [← hcut, List.getElem?_take_of_lt (by omega)]
    have hlength := congrArg List.length hcut
    rw [List.length_append, List.length_cons, List.length_take] at hlength
    refine ⟨t.length, ⟨by omega, ?_, fun i hik hti hdot => hrest ?_⟩, ?_⟩
    · rw [hat _ (by omega), List.getElem?_append_right (Nat.le_refl _), Nat.sub_self,
        List.getElem?_cons_zero]
    · obtain ⟨j, rfl⟩ := Nat.exists_eq_add_of_lt hti
      rw [hat _ hik, List.getElem?_append_right (by omega),
        show t.length + j + 1 - t.length = j + 1 by omega, List.getElem?_cons_succ] at hdot
      exact List.mem_of_getElem? hdot
    · have htake := congrArg (List.take t.length) hcut
      rwa [List.take_take, List.take_left, Nat.min_eq_left (by omega)] at htake
  · rintro ⟨d, hd, rfl⟩
    obtain ⟨hlength, hdot⟩ := List.getElem?_eq_some_iff.1 hd.dot
    have hle := hd.le
    refine ⟨(current.drop (d + 1)).take (k - d), ?_, fun hmem => ?_⟩
    · rw [show k + 1 = d + (1 + (k - d)) by omega, List.take_add, List.drop_eq_getElem_cons hlength,
        hdot, Nat.add_comm 1, List.take_succ_cons]
    · obtain ⟨j, hj⟩ := List.mem_iff_getElem?.1 hmem
      rw [List.getElem?_take] at hj
      split at hj
      · rw [List.getElem?_drop] at hj
        exact hd.last _ (by omega) (by omega) hj
      · exact absurd hj.symm (Option.some_ne_none _)

/-- **The receiver that is guessed at a position** is the word before the last dot up to
the position. -/
theorem receiverGuess?_eq_some_iff {receiver : Text} :
    receiverGuess? current k = some receiver ↔
      ∃ d, IsLastDot current k d ∧ wordLeftOf current d = receiver ∧ receiver ≠ [] := by
  unfold receiverGuess?
  rw [Option.bind_eq_some_iff]
  constructor
  · rintro ⟨t, ht, hreceiver⟩
    obtain ⟨d, hd, rfl⟩ := beforeLast?_take_eq_some_iff.1 ht
    exact ⟨d, hd, Text.searchWord?_blanks_eq_some_iff.1 hreceiver⟩
  · rintro ⟨d, hd, hreceiver⟩
    exact ⟨current.take d, beforeLast?_take_eq_some_iff.2 ⟨d, hd, rfl⟩,
      Text.searchWord?_blanks_eq_some_iff.2 hreceiver⟩

end Context
end ApiGuide
