/-
# Where a text is cut

A cut at a character depends on its first or last occurrence alone, so it is
known as soon as the text is written as a part without the character, the
character, and a rest. Splitting at every occurrence turns a separator between
two texts into the append of their pieces (`splitOn_append_cons`); so pieces
without the separator are what their join splits into (`splitOn_join`).
-/

import ApiGuide.Text.Split
import Mathlib.Data.List.TakeWhile

namespace ApiGuide
namespace Text

variable {stop sep : CodePoint} {t rest : Text}

/-! ### The first occurrence -/

/-- A stop is looked for behind a part that does not hold it. -/
theorem upTo_append (h : stop ∉ t) : upTo stop (t ++ rest) = t ++ upTo stop rest := by
  unfold upTo
  refine List.takeWhile_append_of_pos fun c hc => ?_
  have hne : c ≠ stop := fun he => h (he ▸ hc)
  simp [hne]

/-- Nothing stands before a stop at the front. -/
@[simp] theorem upTo_cons_self (stop : CodePoint) (rest : Text) :
    upTo stop (stop :: rest) = [] := by
  simp [upTo]

/-- All of a text without the stop stands before it. -/
theorem upTo_of_not_mem (h : stop ∉ t) : upTo stop t = t := by
  have h' : upTo stop (t ++ []) = t ++ upTo stop [] := upTo_append h
  rwa [List.append_nil, show upTo stop [] = [] from rfl, List.append_nil] at h'

/-- A part that does not hold the stop is what stands before the first one. -/
theorem upTo_append_cons (h : stop ∉ t) : upTo stop (t ++ stop :: rest) = t := by
  rw [upTo_append h, upTo_cons_self, List.append_nil]

/-- **The text after the first occurrence**, which a part without the character
does not move. -/
theorem after?_append_cons (h : stop ∉ t) : after? stop (t ++ stop :: rest) = some rest := by
  induction t with
  | nil => simp [after?]
  | cons c t ih =>
    have hc : c ≠ stop := fun he => h (he ▸ List.mem_cons_self)
    rw [List.cons_append, after?, if_neg hc]
    exact ih fun hm => h (List.mem_cons_of_mem _ hm)

/-- The first stop is looked for behind a part that does not hold it. -/
theorem after?_append (h : stop ∉ t) : after? stop (t ++ rest) = after? stop rest := by
  induction t with
  | nil => rfl
  | cons c t ih =>
    have hc : c ≠ stop := fun he => h (he ▸ List.mem_cons_self)
    rw [List.cons_append, after?, if_neg hc]
    exact ih fun hm => h (List.mem_cons_of_mem _ hm)

/-- What stands before a stop is a part of the text. -/
theorem upTo_subset (stop : CodePoint) (t : Text) : upTo stop t ⊆ t :=
  (List.takeWhile_sublist _).subset

/-- The text before the first occurrence of a character does not hold it. -/
theorem not_mem_upTo (stop : CodePoint) (t : Text) : stop ∉ upTo stop t := by
  intro hmem
  have hne := List.mem_takeWhile_imp hmem
  simp at hne

/-- What stands before the first occurrence of a character is a beginning of the text. -/
theorem exists_eq_upTo_append (stop : CodePoint) (t : Text) : ∃ rest, t = upTo stop t ++ rest :=
  ⟨_, List.takeWhile_append_dropWhile.symm⟩

/-- What is behind a stop is a part of the text. -/
theorem after?_subset (h : after? stop t = some rest) : rest ⊆ t := by
  rw [eq_upTo_append_of_after? h]
  exact fun c hc => List.mem_append_right _ (List.mem_cons_of_mem _ hc)

/-- **A text is cut at the first occurrence of a character in one way only.** -/
theorem append_cons_inj {t' rest' : Text} (h : stop ∉ t) (h' : stop ∉ t') :
    t ++ stop :: rest = t' ++ stop :: rest' ↔ t = t' ∧ rest = rest' := by
  constructor
  · intro heq
    have hfront := congrArg (upTo stop) heq
    have hrest := congrArg (after? stop) heq
    rw [upTo_append_cons h, upTo_append_cons h'] at hfront
    rw [after?_append_cons h, after?_append_cons h', Option.some_inj] at hrest
    exact ⟨hfront, hrest⟩
  · rintro ⟨rfl, rfl⟩
    rfl

/-- A character that does not occur in a text occurs no earlier than behind it. -/
theorem length_le_of_append_cons_eq {sep : CodePoint} {x y x' y' : Text}
    (h : x ++ sep :: y = x' ++ sep :: y') (hx : sep ∉ x) : x.length ≤ x'.length := by
  rcases List.append_eq_append_iff.1 h with ⟨z, rfl, -⟩ | ⟨z, rfl, hz⟩
  · rw [List.length_append]
    omega
  · cases z with
    | nil => simp
    | cons c z =>
      obtain ⟨rfl, -⟩ := List.cons.inj hz
      exact absurd (List.mem_append_right x' List.mem_cons_self) hx

/-! ### The last occurrence -/

/-- **The text before the last occurrence**, which a part without the character
does not move. -/
theorem beforeLast?_append_cons (h : stop ∉ rest) :
    beforeLast? stop (t ++ stop :: rest) = some t := by
  unfold beforeLast?
  rw [List.reverse_append, List.reverse_cons, List.append_assoc, List.singleton_append,
    after?_append_cons (by rwa [List.mem_reverse]), Option.map_some, List.reverse_reverse]

/-- The last stop is looked for before a part that does not hold it. -/
theorem beforeLast?_append (h : stop ∉ rest) :
    beforeLast? stop (t ++ rest) = beforeLast? stop t := by
  unfold beforeLast?
  rw [List.reverse_append, after?_append (by rwa [List.mem_reverse])]

/-- **The text before the last occurrence** is what stands before a character that does
not occur again. -/
theorem beforeLast?_eq_some_iff {u : Text} :
    beforeLast? stop t = some u ↔ ∃ rest, t = u ++ stop :: rest ∧ stop ∉ rest := by
  constructor
  · intro h
    obtain ⟨v, hv, rfl⟩ := Option.map_eq_some_iff.1 h
    have ht := congrArg List.reverse (eq_upTo_append_of_after? hv)
    rw [List.reverse_reverse, List.reverse_append, List.reverse_cons, List.append_assoc,
      List.singleton_append] at ht
    exact ⟨_, ht, fun hmem => not_mem_upTo stop t.reverse (List.mem_reverse.1 hmem)⟩
  · rintro ⟨rest, rfl, hrest⟩
    exact beforeLast?_append_cons hrest

/-! ### Every occurrence -/

/-- A text without the separator is one piece. -/
theorem splitOn_of_not_mem (h : sep ∉ t) : splitOn sep t = [t] := by
  induction t with
  | nil => rfl
  | cons c t ih =>
    have hc : c ≠ sep := fun he => h (he ▸ List.mem_cons_self)
    rw [splitOn, if_neg hc, ih fun hm => h (List.mem_cons_of_mem _ hm)]
    rfl

/-- **A separator between two texts parts their pieces.** -/
theorem splitOn_append_cons (sep : CodePoint) (t rest : Text) :
    splitOn sep (t ++ sep :: rest) = splitOn sep t ++ splitOn sep rest := by
  induction t with
  | nil => simp [splitOn]
  | cons c t ih =>
    rw [List.cons_append, splitOn, splitOn, ih]
    split
    · rfl
    · cases hs : splitOn sep t with
      | nil => exact absurd hs (splitOn_ne_nil sep t)
      | cons piece pieces => rfl

/-- A piece is joined before the others. -/
theorem join_cons {between t : Text} {pieces : List Text} (h : pieces ≠ []) :
    join between (t :: pieces) = t ++ between ++ join between pieces := by
  cases pieces with
  | nil => exact absurd rfl h
  | cons next pieces => rw [join]

/-- What stands in a text stands in it with more behind. -/
theorem infix_append_left {part front : Text} (h : part <:+: front) (rest : Text) :
    part <:+: front ++ rest :=
  h.trans (List.prefix_append _ _).isInfix

/-- What stands in a text stands in it with more before. -/
theorem infix_append_right {part rest : Text} (h : part <:+: rest) (front : Text) :
    part <:+: front ++ rest :=
  h.trans (List.suffix_append _ _).isInfix

/-- A piece stands in the joined text. -/
theorem infix_join {piece : Text} {pieces : List Text} (h : piece ∈ pieces) (between : Text) :
    piece <:+: join between pieces := by
  induction pieces with
  | nil => exact absurd h List.not_mem_nil
  | cons first rest ih =>
    cases rest with
    | nil => exact List.mem_singleton.1 h ▸ List.infix_refl piece
    | cons next rest =>
      rw [join]
      rcases List.mem_cons.1 h with rfl | hrest
      · exact infix_append_left (infix_append_left (List.infix_refl _) _) _
      · exact infix_append_right (ih hrest) _

/-- **Pieces without the separator are the pieces of their join.** -/
theorem splitOn_join {pieces : List Text} (hne : pieces ≠ []) (h : ∀ piece ∈ pieces, sep ∉ piece) :
    splitOn sep (join [sep] pieces) = pieces := by
  induction pieces with
  | nil => exact absurd rfl hne
  | cons piece pieces ih =>
    have hpiece := splitOn_of_not_mem (h piece List.mem_cons_self)
    cases pieces with
    | nil => exact hpiece
    | cons next pieces =>
      have hrest := ih (List.cons_ne_nil _ _) fun p hp => h p (List.mem_cons_of_mem _ hp)
      rw [join, List.append_assoc, List.singleton_append, splitOn_append_cons, hpiece, hrest]
      rfl

/-- A character that no separator holds is in a join if it is in one of the pieces. -/
theorem mem_join_iff {c : CodePoint} {between : Text} {pieces : List Text} (h : c ∉ between) :
    c ∈ join between pieces ↔ ∃ piece ∈ pieces, c ∈ piece := by
  induction pieces with
  | nil => simp [join]
  | cons piece pieces ih =>
    cases pieces with
    | nil => simp [join]
    | cons next pieces =>
      rw [join, List.append_assoc, List.mem_append, List.mem_append, or_iff_right h, ih]
      simp

/-- Splitting takes nothing away but the separator. -/
theorem exists_mem_splitOn_iff {c : CodePoint} (h : c ≠ sep) :
    (∃ piece ∈ splitOn sep t, c ∈ piece) ↔ c ∈ t := by
  rw [← mem_join_iff fun hc => h (List.mem_singleton.1 hc), join_splitOn]

/-- A piece is a part of the text. -/
theorem subset_of_mem_splitOn {piece : Text} (h : piece ∈ splitOn sep t) : piece ⊆ t := by
  intro c hc
  have hsep : c ≠ sep := fun he => not_mem_of_mem_splitOn h (he ▸ hc)
  exact (exists_mem_splitOn_iff hsep).1 ⟨piece, h, hc⟩

/-- A separator that is not in what a text ends with stands before that end. -/
theorem exists_of_append_cons_eq {x y b t : Text} {sep : CodePoint} (h : x ++ sep :: y = b ++ t)
    (ht : sep ∉ t) : ∃ z, b = x ++ sep :: z ∧ y = z ++ t := by
  rcases List.append_eq_append_iff.1 h with ⟨z, hb, hz⟩ | ⟨z, -, hz⟩
  · cases z with
    | nil =>
      rw [List.nil_append] at hz
      exact absurd (hz ▸ List.mem_cons_self) ht
    | cons c z =>
      obtain ⟨rfl, rfl⟩ := List.cons.inj hz
      exact ⟨z, hb, rfl⟩
  · exact absurd (hz ▸ List.mem_append_right z List.mem_cons_self) ht

end Text
end ApiGuide
