/-
# Words with a dot between

A word that follows another one and a dot has that one as its receiver, at every position
over it that no dot follows (`Dotted.wordAt`): up to there that dot is the last one, and the
word before it is whole.

The words that name a call are such words, in any line that goes on behind the text that the
call cuts (`Call.Cuts.dotted`), and a blank or a bracket follows the second one. So the word
of a cursor over the method of a call has the receiver of the call, though the one is found
by runs and the last dot of the whole line and the other by a search for calls in a part of
it.
-/

import ApiGuide.Proofs.Context.Call
import ApiGuide.Proofs.Context.Run

namespace ApiGuide
namespace Context

/-! ### Words with a dot between -/

/-- Two whole words of a line: a dot follows the first one, and the second one follows the dot. -/
structure Dotted (current : Text) (owner member : Run) : Prop where
  owner_line : owner.line = current
  member_line : member.line = current
  owner_whole : owner.IsWhole
  member_whole : member.IsWhole
  dot : current[owner.stop]? = some (CodePoint.ofChar '.')
  next : member.start = owner.stop + 1

namespace Dotted

variable {current : Text} {owner member : Run}

/-- Before the second word stands the first one with the dot. -/
theorem before_member (h : Dotted current owner member) :
    member.before = owner.before ++ (owner.word ++ CodePoint.ofChar '.' :: []) := by
  obtain ⟨hlength, hdot⟩ := List.getElem?_eq_some_iff.1 h.dot
  have howner : current.take owner.stop = owner.before ++ owner.word := by
    rw [← h.owner_line, Run.line, Run.stop, ← List.append_assoc, ← List.length_append,
      List.take_left]
  have hmember : current.take member.start = member.before := by
    rw [← h.member_line, Run.line, Run.start, List.take_left]
  rw [← hmember, h.next, List.take_succ_eq_append_getElem hlength, howner, hdot, List.append_assoc]

/-- **A word that follows another one and a dot** has that one as its receiver, at every
position over it but the one that a dot follows. -/
theorem wordAt (h : Dotted current owner member) {k : Int} (hk : member.Holds k)
    (hdot : ¬ member.AtDot k) : Context.wordAt current k = .word member.word (some owner.word) := by
  obtain ⟨hstart, hstartDot⟩ := Run.holds_start h.member_whole
  obtain ⟨rest, hrest, hnot⟩ := h.member_whole.exists_take hstart hstartDot
  have htake : member.line.take (member.start + 1) =
      owner.before ++ (owner.word ++ CodePoint.ofChar '.' :: rest) := by
    rw [Int.toNat_natCast] at hrest
    rw [hrest, h.before_member]
    simp
  rw [← h.member_line, h.member_whole.wordAt hk, if_neg hdot,
    Run.receiverGuess?_of_take htake hnot h.owner_whole.before h.owner_whole.word]

/-- A line that is cut at a dot between two words. -/
theorem of_cut {before receiver method behind : Text}
    (hbefore : ∀ c ∈ before.getLast?, c.isWord = false) (hreceiver : receiver.IsWord)
    (hmethod : method.IsWord) (hbehind : ∀ c ∈ behind.head?, c.isWord = false) :
    Dotted (before ++ (receiver ++ CodePoint.ofChar '.' :: (method ++ behind)))
      ⟨before, receiver, CodePoint.ofChar '.' :: (method ++ behind)⟩
      ⟨before ++ (receiver ++ [CodePoint.ofChar '.']), method, behind⟩ where
  owner_line := rfl
  member_line := by simp [Run.line]
  owner_whole := ⟨hreceiver, hbefore, by rintro c ⟨⟩; decide⟩
  member_whole := by
    refine ⟨hmethod, fun c hc => ?_, hbehind⟩
    rw [← List.append_assoc, List.getLast?_concat] at hc
    obtain rfl := Option.some.inj hc
    decide
  dot := by
    rw [← List.append_assoc, Run.stop, ← List.length_append, List.getElem?_append_right le_rfl,
      Nat.sub_self, List.getElem?_cons_zero]
  next := by simp [Run.start, Run.stop, Nat.add_assoc]

end Dotted

namespace Call

/-- The receiver of a call, in a line that goes on behind the arguments. -/
def ownerRun (call : Call) (rest : Text) : Run :=
  ⟨call.before, call.receiver, CodePoint.ofChar '.' ::
    (call.method ++ (call.gap ++ CodePoint.ofChar '(' :: (call.arguments ++ rest)))⟩

/-- The method of a call, in a line that goes on behind the arguments. -/
def memberRun (call : Call) (rest : Text) : Run :=
  ⟨call.before ++ (call.receiver ++ [CodePoint.ofChar '.']), call.method,
    call.gap ++ CodePoint.ofChar '(' :: (call.arguments ++ rest)⟩

variable {call : Call} {left : Text}

/-- Behind a method stands a blank or a bracket. -/
theorem Cuts.head?_behind_memberRun (h : call.Cuts left) {rest : Text} {c : CodePoint}
    (hc : (call.memberRun rest).behind.head? = some c) :
    c.isBlank = true ∨ c = CodePoint.ofChar '(' := by
  unfold memberRun at hc
  simp only at hc
  cases hgap : call.gap with
  | nil =>
    rw [hgap] at hc
    exact Or.inr (Option.some.inj hc).symm
  | cons d gap =>
    rw [hgap] at hc
    exact Or.inl (h.whole.gap c (hgap ▸ List.mem_of_mem_head? hc))

/-- **The words that name a call** are whole words of the line, with a dot between. -/
theorem Cuts.dotted (h : call.Cuts left) (rest : Text) :
    Dotted (left ++ rest) (call.ownerRun rest) (call.memberRun rest) := by
  have hline : left ++ rest = call.before ++ (call.receiver ++ CodePoint.ofChar '.' ::
      (call.method ++ (call.gap ++ CodePoint.ofChar '(' :: (call.arguments ++ rest)))) := by
    rw [h.text]
    simp [Callee.text]
  rw [hline]
  refine .of_cut h.whole.before h.whole.receiver h.whole.method fun c hc => ?_
  rcases h.head?_behind_memberRun hc with hblank | rfl
  · exact CodePoint.isWord_of_isBlank hblank
  · decide

/-- No dot follows the method of a call. -/
theorem Cuts.not_atDot (h : call.Cuts left) (rest : Text) (k : Int) :
    ¬ (call.memberRun rest).AtDot k := by
  intro hdot
  rcases h.head?_behind_memberRun hdot.2 with hblank | hbracket
  · exact absurd hblank (by decide)
  · exact absurd hbracket (by decide)

end Call
end Context
end ApiGuide
