/-
# The word under a cursor

A line is cut around one of its words: what stands before the word does not end
with a word character, and what stands behind it does not begin with one. At every
cursor on the word, its ends included, the context is that word. The receiver that
comes with it is read off what stands before the word, with one exception: at the
end of a word that a dot follows, that dot is the last one up to the cursor, and
the receiver is the word itself (`Run.IsWhole.wordAt`).
-/

import ApiGuide.Context
import ApiGuide.Proofs.Text.Cut
import ApiGuide.Proofs.Text.Search

namespace ApiGuide
namespace Context

/-- A line cut into what stands before a word, the word, and what stands behind it. -/
structure Run where
  before : Text
  word : Text
  behind : Text

namespace Run

/-- The line that is cut. -/
def line (run : Run) : Text := run.before ++ (run.word ++ run.behind)

/-- The position of the first character of the word. -/
def start (run : Run) : Nat := run.before.length

/-- The position behind the last character of the word. -/
def stop (run : Run) : Nat := run.before.length + run.word.length

/-- The word is a word and goes on in neither direction. -/
structure IsWhole (run : Run) : Prop where
  word : run.word.IsWord
  before : ∀ c ∈ run.before.getLast?, c.isWord = false
  behind : ∀ c ∈ run.behind.head?, c.isWord = false

/-- The cursor is on the word or at its end. -/
def Holds (run : Run) (cursor : Int) : Prop := run.start ≤ cursor ∧ cursor ≤ run.stop

/-- The cursor is between the word and a dot. -/
def AtDot (run : Run) (cursor : Int) : Prop :=
  cursor = run.stop ∧ run.behind.head? = some (CodePoint.ofChar '.')

instance (run : Run) (cursor : Int) : Decidable (run.Holds cursor) :=
  inferInstanceAs (Decidable (_ ∧ _))

instance (run : Run) (cursor : Int) : Decidable (run.AtDot cursor) :=
  inferInstanceAs (Decidable (_ ∧ _))

variable {run : Run} {cursor : Int}

/-- A line is as long as what stands up to the end of a run and behind it. -/
theorem length_line (run : Run) : run.line.length = run.stop + run.behind.length := by
  unfold line stop
  rw [List.length_append, List.length_append, Nat.add_assoc]

/-- A cursor on the word is in the line, so it is not moved. -/
theorem Holds.clamp (hc : run.Holds cursor) : Context.clamp run.line cursor = cursor.toNat := by
  have hstop := hc.2
  unfold Context.clamp
  rw [length_line]
  omega

/-- A whole run holds its start, which is never its end. -/
theorem holds_start (h : run.IsWhole) : run.Holds run.start ∧ ¬ run.AtDot run.start := by
  have hlength := List.length_pos_iff.2 h.word.ne_nil
  refine ⟨⟨Int.le_refl _, ?_⟩, fun hdot => ?_⟩
  · unfold start stop
    omega
  · have hstop := hdot.1
    unfold start stop at hstop
    omega

/-- Up to a cursor behind the start of a run stand all before the run, and the beginning of the
run and what follows it. -/
theorem take_line {n : Nat} (hn : run.start ≤ n) :
    run.line.take n = run.before ++ (run.word ++ run.behind).take (n - run.start) := by
  unfold line start at *
  rw [List.take_append, List.take_of_length_le hn]

/-! ### The word -/

/-- **The word is found** at every cursor on it. -/
theorem IsWhole.wordOver?_words (h : run.IsWhole) (hc : run.Holds cursor) :
    Text.wordOver? cursor.toNat (Text.words 0 run.line) = some run.word := by
  obtain ⟨hstart, hstop⟩ := hc
  unfold start at hstart
  unfold stop at hstop
  exact Text.wordOver?_words h.before h.word h.behind (by omega) (by omega)

/-! ### The receiver -/

/-- **The receiver is the whole word before the last dot.** -/
theorem receiverGuess?_of_take {current lead receiver rest : Text} {k : Nat}
    (htake : current.take (k + 1) = lead ++ (receiver ++ CodePoint.ofChar '.' :: rest))
    (hrest : CodePoint.ofChar '.' ∉ rest) (hlead : ∀ c ∈ lead.getLast?, c.isWord = false)
    (hreceiver : receiver.IsWord) : receiverGuess? current k = some receiver := by
  unfold receiverGuess?
  rw [htake, ← List.append_assoc, Text.beforeLast?_append_cons hrest, Option.bind_some,
    Text.searchWord?_eq_some_iff Text.isWord_of_all_isBlank]
  exact ⟨lead, [], by rw [List.append_nil], hlead, hreceiver, rfl⟩

/-- Up to a cursor that is not between the word and a dot, there is no dot behind
what stands before the word. -/
theorem IsWhole.exists_take (h : run.IsWhole) (hc : run.Holds cursor) (hdot : ¬ run.AtDot cursor) :
    ∃ t, run.line.take (cursor.toNat + 1) = run.before ++ t ∧ CodePoint.ofChar '.' ∉ t := by
  obtain ⟨hstart, hstop⟩ := hc
  refine ⟨_, take_line (by omega), fun hmem => ?_⟩
  rw [List.take_append, List.mem_append] at hmem
  rcases hmem with hmem | hmem
  · exact h.word.not_mem (by decide) (List.mem_of_mem_take hmem)
  · have hend : cursor = run.stop ∨ cursor.toNat + 1 - run.start - run.word.length = 0 := by
      unfold start stop at *
      omega
    rcases hend with hend | hend
    · have hone : cursor.toNat + 1 - run.start - run.word.length = 1 := by
        unfold start stop at *
        omega
      rw [hone] at hmem
      refine hdot ⟨hend, ?_⟩
      cases hbehind : run.behind with
      | nil => simp [hbehind] at hmem
      | cons c behind =>
        rw [hbehind, List.take_succ_cons, List.take_zero, List.mem_singleton] at hmem
        rw [← hmem, List.head?_cons]
    · rw [hend, List.take_zero] at hmem
      exact absurd hmem List.not_mem_nil

/-- **The receiver is the same** at every cursor on the word that is not between the
word and a dot. -/
theorem IsWhole.receiverGuess?_of_not_atDot (h : run.IsWhole) (hc : run.Holds cursor)
    (hdot : ¬ run.AtDot cursor) :
    receiverGuess? run.line cursor.toNat = receiverGuess? run.line run.start := by
  obtain ⟨t, ht, hnot⟩ := h.exists_take hc hdot
  obtain ⟨t', ht', hnot'⟩ := h.exists_take (holds_start h).1 (holds_start h).2
  unfold receiverGuess?
  rw [Int.toNat_natCast] at ht'
  rw [ht, ht', Text.beforeLast?_append hnot, Text.beforeLast?_append hnot']

/-- **Between a word and a dot the receiver is that word.** -/
theorem IsWhole.receiverGuess?_of_atDot (h : run.IsWhole) (hdot : run.AtDot cursor) :
    receiverGuess? run.line cursor.toNat = some run.word := by
  obtain ⟨rfl, hhead⟩ := hdot
  obtain ⟨behind, hbehind⟩ := List.head?_eq_some_iff.1 hhead
  have htake : run.line.take (run.stop + 1) =
      run.before ++ (run.word ++ CodePoint.ofChar '.' :: []) := by
    unfold line stop
    rw [hbehind, ← List.append_assoc, ← List.length_append, List.take_length_add_append,
      List.take_succ_cons, List.take_zero, List.append_assoc]
  rw [Int.toNat_natCast]
  exact receiverGuess?_of_take htake List.not_mem_nil h.before h.word

/-- **The context of a cursor on a word.** -/
theorem IsWhole.wordAt (h : run.IsWhole) (hc : run.Holds cursor) :
    wordAt run.line cursor = .word run.word
      (if run.AtDot cursor then some run.word else receiverGuess? run.line run.start) := by
  unfold Context.wordAt
  rw [hc.clamp, h.wordOver?_words hc]
  simp only
  split
  · rename_i hdot
    rw [h.receiverGuess?_of_atDot hdot]
  · rename_i hdot
    rw [h.receiverGuess?_of_not_atDot hc hdot]

end Run

end Context
end ApiGuide
