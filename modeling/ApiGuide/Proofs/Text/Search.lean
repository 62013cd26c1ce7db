/-
# What a search finds

A search for a word with a text behind it that passes a test finds the one word
that stands whole before such a text, if no such text holds word characters: then
there is one word at most, the last one (`searchWord?_eq_some_iff`).

Going through the words of a text in order finds the word that a position touches,
since two words do not touch each other (`wordOver?_words`).
-/

import ApiGuide.Text.Search
import ApiGuide.Proofs.Text.Edge
import Mathlib.Data.List.TakeWhile

namespace ApiGuide
namespace Text

/-- A text is the word in front and what stands behind it. -/
theorem leadingWord_append_dropWhile (t : Text) :
    t.leadingWord ++ t.dropWhile CodePoint.isWord = t :=
  List.takeWhile_append_dropWhile

/-- The word in front is a word, if there is one. -/
theorem isWord_leadingWord {t : Text} (h : t.leadingWord ≠ []) : IsWord t.leadingWord :=
  ⟨h, fun _ hc => List.mem_takeWhile_imp hc⟩

/-! ### The word before a text that passes a test -/

section Test

variable {test : Text → Bool} {t word : Text}

/-- **A word is found before a rest** that passes a test and holds no character of a word. -/
theorem wordBefore?_eq_some_iff (htest : ∀ t, test t = true → ∀ c ∈ t, c.isWord = false) :
    wordBefore? test t = some word ↔
      ∃ rest, t = word ++ rest ∧ word.IsWord ∧ test rest = true := by
  unfold wordBefore?
  constructor
  · intro h
    split at h
    · rename_i hfound
      obtain rfl := Option.some.inj h
      exact ⟨_, (leadingWord_append_dropWhile t).symm, isWord_leadingWord hfound.1, hfound.2⟩
    · simp at h
  · rintro ⟨rest, rfl, hword, hrest⟩
    have hhead : ∀ c ∈ rest.head?, c.isWord = false :=
      fun c hc => htest rest hrest c (List.mem_of_mem_head? hc)
    have hlead : leadingWord (word ++ rest) = word := takeWhile_run hword.isWord hhead
    rw [hlead, dropWhile_run hword.isWord hhead, if_pos ⟨hword.ne_nil, hrest⟩]

/-- At the beginning of a text and behind something that does not end with a word
character, the words before texts without word characters are the same. -/
theorem eq_nil_of_append_eq {before rest word' rest' : Text}
    (h : before ++ (word ++ rest) = word' ++ rest')
    (hbefore : ∀ c ∈ before.getLast?, c.isWord = false) (hword : word.IsWord)
    (hword' : word'.IsWord) (hrest' : ∀ c ∈ rest', c.isWord = false) : before = [] := by
  rcases List.append_eq_append_iff.1 h with ⟨u, hu, -⟩ | ⟨u, -, hu⟩
  · cases hlast : before.getLast? with
    | none => exact List.getLast?_eq_none_iff.1 hlast
    | some d =>
      have hmem : d ∈ word' := hu ▸ List.mem_append_left u (List.mem_of_getLast? hlast)
      exact absurd (hword'.isWord d hmem) (by rw [hbefore d hlast]; exact Bool.false_ne_true)
  · obtain ⟨d, tail, rfl⟩ := List.exists_cons_of_ne_nil hword.ne_nil
    have hmem : d ∈ rest' := by rw [hu]; simp
    exact absurd (hword.isWord d List.mem_cons_self)
      (by rw [hrest' d hmem]; exact Bool.false_ne_true)

/-- **A search finds the whole word before a text that passes the test**, and no other. -/
theorem searchWord?_eq_some_iff (htest : ∀ t, test t = true → ∀ c ∈ t, c.isWord = false) :
    searchWord? test t = some word ↔
      ∃ before rest, t = before ++ (word ++ rest) ∧ (∀ c ∈ before.getLast?, c.isWord = false) ∧
        word.IsWord ∧ test rest = true := by
  induction t with
  | nil =>
    rw [searchWord?]
    refine ⟨fun h => absurd h.symm (Option.some_ne_none _), ?_⟩
    rintro ⟨before, rest, h, -, hword, -⟩
    exact absurd (List.append_eq_nil_iff.1 (List.append_eq_nil_iff.1 h.symm).2).1 hword.ne_nil
  | cons c t ih =>
    rw [searchWord?]
    cases hfound : wordBefore? test (c :: t) with
    | some word' =>
      obtain ⟨rest', ht, hword', hrest'⟩ := (wordBefore?_eq_some_iff htest).1 hfound
      constructor
      · rintro h
        obtain rfl := Option.some.inj h
        exact ⟨[], rest', ht, by simp, hword', hrest'⟩
      · rintro ⟨before, rest, h, hbefore, hword, hrest⟩
        obtain rfl := eq_nil_of_append_eq (h.symm.trans ht) hbefore hword hword' (htest _ hrest')
        exact hfound.symm.trans ((wordBefore?_eq_some_iff htest).2 ⟨rest, h, hword, hrest⟩)
    | none =>
      have hnone : ∀ word rest : Text, c :: t = word ++ rest → word.IsWord →
          test rest = true → False := by
        intro word rest h hword hrest
        have hsome := (wordBefore?_eq_some_iff htest).2 ⟨rest, h, hword, hrest⟩
        exact Option.some_ne_none word (hsome.symm.trans hfound)
      refine ih.trans ⟨?_, ?_⟩
      · rintro ⟨before, rest, rfl, hbefore, hword, hrest⟩
        refine ⟨c :: before, rest, rfl, ?_, hword, hrest⟩
        cases before with
        | nil =>
          -- A word character here would belong to the word, which would be found here.
          intro d hd
          obtain rfl : c = d := Option.some.inj hd
          cases hc : c.isWord with
          | false => rfl
          | true =>
            refine (hnone (c :: word) rest rfl ⟨List.cons_ne_nil _ _, ?_⟩ hrest).elim
            exact List.forall_mem_cons.2 ⟨hc, hword.isWord⟩
        | cons e before => rwa [List.getLast?_cons_cons]
      · rintro ⟨before, rest, h, hbefore, hword, hrest⟩
        cases before with
        | nil => exact (hnone word rest h hword hrest).elim
        | cons e before =>
          obtain ⟨rfl, rfl⟩ := List.cons.inj h
          exact ⟨before, rest, rfl, forall_getLast?_of_cons hbefore, hword, hrest⟩

end Test

/-- Blanks are a text that holds no word characters. -/
theorem isWord_of_all_isBlank (t : Text) (h : t.all CodePoint.isBlank = true) :
    ∀ c ∈ t, c.isWord = false :=
  fun c hc => CodePoint.isWord_of_isBlank (List.all_eq_true.1 h c hc)

/-- **The word before blanks at the end** of a text is the one that the text without
them ends with. -/
theorem searchWord?_blanks_eq_some_iff {t word : Text} :
    searchWord? (List.all · CodePoint.isBlank) t = some word ↔
      t.trimEnd.trailingWord = word ∧ word ≠ [] := by
  rw [searchWord?_eq_some_iff isWord_of_all_isBlank]
  constructor
  · rintro ⟨lead, gap, rfl, hlead, hword, hgap⟩
    exact ⟨trailingWord_trimEnd_append hlead hword (List.all_eq_true.1 hgap), hword.ne_nil⟩
  · rintro ⟨rfl, hne⟩
    obtain ⟨lead, gap, ht, hlead, hword, hgap⟩ := exists_of_trailingWord_trimEnd_ne_nil hne
    exact ⟨lead, gap, ht, hlead, hword, List.all_eq_true.2 hgap⟩

/-! ### The word at a position -/

/-- A text that begins but does not end with a word character goes on behind the word
that it begins with. -/
theorem exists_run_append {c : CodePoint} {t : Text} (hc : c.isWord = true)
    (hlast : ∀ d ∈ (c :: t).getLast?, d.isWord = false) :
    ∃ run others : Text, t = run ++ others ∧ (∀ d ∈ run, d.isWord = true) ∧ others ≠ [] ∧
      (∀ d ∈ others.head?, d.isWord = false) ∧ ∀ d ∈ others.getLast?, d.isWord = false := by
  have hsplit := leadingWord_append_dropWhile t
  have hne : t.dropWhile CodePoint.isWord ≠ [] := by
    intro hnil
    have hword : ∀ d ∈ c :: t, d.isWord = true :=
      List.forall_mem_cons.2 ⟨hc, List.dropWhile_eq_nil_iff.1 hnil⟩
    have hfalse := hlast _ (List.getLast?_eq_some_getLast (List.cons_ne_nil c t))
    rw [hword _ (List.getLast_mem _)] at hfalse
    exact Bool.false_ne_true hfalse.symm
  refine ⟨_, _, hsplit.symm, fun d hd => List.mem_takeWhile_imp hd, hne,
    head?_dropWhile CodePoint.isWord t, fun d hd => hlast d ?_⟩
  rw [← hsplit, ← List.cons_append, List.getLast?_append, Option.mem_def.1 hd]
  rfl

/-- **The words of a text in order lead to the word that a position touches.** -/
theorem wordOver?_words {before word behind : Text} {position k : Nat}
    (hbefore : ∀ c ∈ before.getLast?, c.isWord = false) (hword : word.IsWord)
    (hbehind : ∀ c ∈ behind.head?, c.isWord = false) (hstart : position + before.length ≤ k)
    (hstop : k ≤ position + before.length + word.length) :
    wordOver? k (words position (before ++ (word ++ behind))) = some word := by
  induction hn : before.length using Nat.strongRecOn generalizing before position with
  | ind n ih =>
    subst hn
    cases before with
    | nil =>
      obtain ⟨c, tail, rfl⟩ := List.exists_cons_of_ne_nil hword.ne_nil
      have htail : ∀ d ∈ tail, d.isWord = true :=
        fun d hd => hword.isWord d (List.mem_cons_of_mem _ hd)
      rw [List.nil_append, List.cons_append, words, if_pos (hword.isWord c List.mem_cons_self)]
      simp only
      rw [takeWhile_run htail hbehind, wordOver?, if_pos ⟨hstart, hstop⟩]
    | cons c before =>
      cases hc : c.isWord with
      | false =>
        rw [List.cons_append, words, if_neg (by rw [hc]; exact Bool.false_ne_true)]
        rw [List.length_cons] at hstart hstop
        exact ih before.length (Nat.lt_succ_self _) (forall_getLast?_of_cons hbefore) (by omega)
          (by omega) rfl
      | true =>
        -- The word that begins here ends before the one that is looked for.
        obtain ⟨run, others, rfl, hrun, hne, hhead, hlast⟩ := exists_run_append hc hbefore
        have hlength := List.length_pos_iff.2 hne
        have hothers : ∀ d ∈ (others ++ (word ++ behind)).head?, d.isWord = false := by
          obtain ⟨d, others, rfl⟩ := List.exists_cons_of_ne_nil hne
          exact hhead
        rw [List.length_cons, List.length_append] at hstart hstop
        rw [List.cons_append, List.append_assoc, words, if_pos hc]
        simp only
        rw [takeWhile_run hrun hothers, dropWhile_run hrun hothers, wordOver?, List.length_cons,
          if_neg (by omega), if_neg (by omega)]
        refine ih others.length ?_ hlast (by omega) (by omega) rfl
        rw [List.length_cons, List.length_append]
        omega

/-- **A word that is found at a position** has a character there or right before. -/
theorem exists_of_wordOver?_words {position k : Nat} {t word : Text}
    (h : wordOver? k (words position t) = some word) :
    ∃ i c, (position + i + 1 = k ∨ position + i = k) ∧ t[i]? = some c ∧ c.isWord = true := by
  induction position, t using words.induct with
  | case1 position =>
    rw [words] at h
    exact absurd h.symm (Option.some_ne_none _)
  | case2 position c rest hc found ih =>
    have hfound : IsWord found :=
      ⟨List.cons_ne_nil _ _, List.forall_mem_cons.2 ⟨hc, fun _ hd => List.mem_takeWhile_imp hd⟩⟩
    have hsplit : c :: rest = found ++ rest.dropWhile CodePoint.isWord :=
      congrArg (c :: ·) List.takeWhile_append_dropWhile.symm
    rw [words, if_pos hc] at h
    simp only [wordOver?] at h
    split at h
    · rename_i hk
      -- The last character of the word up to the position.
      have hlength := List.length_pos_iff.2 hfound.ne_nil
      have hi : min (k - position) (found.length - 1) < found.length := by omega
      refine ⟨min (k - position) (found.length - 1), found[min (k - position) (found.length - 1)],
        ?_, ?_, hfound.isWord _ (List.getElem_mem hi)⟩
      · have hstop : k ≤ position + found.length := hk.2
        omega
      · rw [hsplit, List.getElem?_append_left hi, List.getElem?_eq_getElem hi]
    · split at h
      · exact absurd h.symm (Option.some_ne_none _)
      · obtain ⟨i, d, hi, hd, hword⟩ := ih h
        refine ⟨found.length + i, d, by omega, ?_, hword⟩
        rw [hsplit, List.getElem?_append_right (by omega), Nat.add_sub_cancel_left, hd]
  | case3 position c rest hc ih =>
    rw [words, if_neg hc] at h
    obtain ⟨i, d, hi, hd, hword⟩ := ih h
    exact ⟨i + 1, d, by omega, hd, hword⟩

end Text
end ApiGuide
