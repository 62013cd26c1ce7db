/-
# Splitting and joining

A text is cut at the first occurrence of a character, or at every one. The
pieces hold no separator, and joining them with it gives the text back.
-/

import ApiGuide.Text.Basic

namespace ApiGuide
namespace Text

/-- The text before the first occurrence of a character, all of it if there is none. -/
def upTo (stop : CodePoint) (t : Text) : Text := t.takeWhile (· ≠ stop)

/-- The text after the first occurrence of a character. -/
def after? (stop : CodePoint) : Text → Option Text
  | [] => none
  | c :: rest => if c = stop then some rest else after? stop rest

/-- The text before the last occurrence of a character. -/
def beforeLast? (stop : CodePoint) (t : Text) : Option Text :=
  (after? stop t.reverse).map List.reverse

/-- There is nothing after a character that does not occur. -/
theorem after?_eq_none_iff {stop : CodePoint} {t : Text} : after? stop t = none ↔ stop ∉ t := by
  induction t with
  | nil => simp [after?]
  | cons c rest ih =>
    by_cases h : c = stop
    · simp [after?, h]
    · simp [after?, h, ih, Ne.symm h]

/-- **The cut loses nothing.** -/
theorem eq_upTo_append_of_after? {stop : CodePoint} {t rest : Text}
    (h : after? stop t = some rest) :
    t = upTo stop t ++ stop :: rest := by
  induction t with
  | nil => simp [after?] at h
  | cons c t ih =>
    by_cases hc : c = stop
    · simp_all [after?, upTo]
    · simp only [after?, hc, if_false] at h
      have := ih h
      simp only [upTo, ne_eq, List.takeWhile_cons, hc, not_false_eq_true, decide_true, if_true,
        List.cons_append, List.cons.injEq, true_and] at this ⊢
      exact this

/-- The pieces of a text between the occurrences of a character. There is always
at least one piece, and adjacent separators have an empty piece between them. -/
def splitOn (sep : CodePoint) : Text → List Text
  | [] => [[]]
  | c :: rest => if c = sep then [] :: splitOn sep rest else (splitOn sep rest).modifyHead (c :: ·)

/-- The texts one after another, with a separator between neighbours. -/
def join (sep : Text) : List Text → Text
  | [] => []
  | [t] => t
  | t :: u :: rest => t ++ sep ++ join sep (u :: rest)

/-- A text has at least one piece. -/
theorem splitOn_ne_nil (sep : CodePoint) (t : Text) : splitOn sep t ≠ [] := by
  induction t with
  | nil => simp [splitOn]
  | cons c rest ih =>
    unfold splitOn
    split
    · simp
    · cases h : splitOn sep rest with
      | nil => exact absurd h ih
      | cons a l => simp

/-- **No piece holds the separator.** -/
theorem not_mem_of_mem_splitOn {sep : CodePoint} {t piece : Text} (h : piece ∈ splitOn sep t) :
    sep ∉ piece := by
  induction t generalizing piece with
  | nil => simp only [splitOn, List.mem_singleton] at h; simp [h]
  | cons c rest ih =>
    unfold splitOn at h
    split at h
    · rcases List.mem_cons.1 h with rfl | h
      · simp
      · exact ih h
    · rename_i hc
      cases hs : splitOn sep rest with
      | nil => exact absurd hs (splitOn_ne_nil sep rest)
      | cons a l =>
        rw [hs, List.modifyHead_cons] at h
        rcases List.mem_cons.1 h with rfl | h
        · have := ih (hs ▸ List.mem_cons_self)
          simp only [List.mem_cons, not_or]
          exact ⟨fun e => hc e.symm, this⟩
        · exact ih (hs ▸ List.mem_cons_of_mem _ h)

/-- **Joining the pieces gives the text back.** -/
theorem join_splitOn (sep : CodePoint) (t : Text) : join [sep] (splitOn sep t) = t := by
  induction t with
  | nil => rfl
  | cons c rest ih =>
    unfold splitOn
    cases hs : splitOn sep rest with
    | nil => exact absurd hs (splitOn_ne_nil sep rest)
    | cons a l =>
      rw [hs] at ih
      split
      · rename_i hc
        subst hc
        simp [join, ih]
      · cases l with
        | nil => simp_all [join]
        | cons b l => simp_all [join]

end Text
end ApiGuide
