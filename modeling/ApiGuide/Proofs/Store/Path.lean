/-
# What paths keep of a text

A path drops slashes and dots of the text that it stands for. Every other
character of the text is in the path as well, so a path can be asked for unless the
text itself holds what no path may hold.
-/

import ApiGuide.Proofs.Text.Cut
import ApiGuide.Store.Tree

namespace ApiGuide
namespace Path

variable {t : Text} {c : CodePoint}

/-- The names of a path hold the characters of the text, slashes and dots apart. -/
theorem exists_mem_namesOf_iff (hslash : c ≠ CodePoint.ofChar '/')
    (hdot : c ≠ CodePoint.ofChar '.') : (∃ name ∈ namesOf t, c ∈ name) ↔ c ∈ t := by
  rw [← Text.exists_mem_splitOn_iff hslash]
  constructor
  · rintro ⟨name, hname, hc⟩
    exact ⟨name, (List.mem_filter.1 hname).1, hc⟩
  · rintro ⟨piece, hpiece, hc⟩
    -- A piece that is dropped is empty or a dot, and holds no such character.
    have hempty : piece ≠ [] := List.ne_nil_of_mem hc
    have hhere : piece ≠ here := by
      rintro rfl
      exact hdot (List.mem_singleton.1 hc)
    exact ⟨piece, List.mem_filter.2 ⟨hpiece, decide_eq_true ⟨hempty, hhere⟩⟩, hc⟩

/-- The base of a path is written with slashes. -/
theorem eq_slash_of_mem_base {slashes : Text} (h : (ofText t).base = .root slashes)
    (hc : c ∈ slashes) : c = CodePoint.ofChar '/' := by
  have hall : ∀ c ∈ t.takeWhile (· = CodePoint.ofChar '/'), c = CodePoint.ofChar '/' := fun c hc =>
    of_decide_eq_true (List.all_eq_true.1 List.all_takeWhile c hc)
  simp only [ofText] at h
  split at h
  · cases h
  · rename_i slash slash' heq
    cases h
    exact hall c (heq ▸ hc)
  · rename_i slash rest heq
    cases h
    exact hall c (heq ▸ List.mem_cons.2 (.inl (List.mem_singleton.1 hc)))

/-- **A path holds the characters of the text that it stands for, slashes and dots
apart.** -/
theorem mem_text_ofText_iff (hslash : c ≠ CodePoint.ofChar '/')
    (hdot : c ≠ CodePoint.ofChar '.') : c ∈ (ofText t).text ↔ c ∈ t := by
  have hnames : c ∈ Text.join "/" (ofText t).names ↔ c ∈ t := by
    have hbetween : c ∉ Text.ofString "/" := fun h => hslash (List.mem_singleton.1 h)
    rw [Text.mem_join_iff hbetween]
    exact exists_mem_namesOf_iff hslash hdot
  unfold text
  split
  · split
    · rename_i hnil
      rw [hnil] at hnames
      have hhere : c ∉ here := fun h => hdot (List.mem_singleton.1 h)
      exact iff_of_false hhere fun h => List.not_mem_nil (hnames.2 h)
    · exact hnames
  · rename_i slashes hbase
    rw [List.mem_append, hnames]
    exact or_iff_right_of_imp fun h => absurd (eq_slash_of_mem_base hbase h) hslash

/-- **A path of scalar values cannot be asked for if it holds a NUL character, and then
only.** -/
theorem read_ofText {files : Path → Except OpenFault Octets}
    (h : ∀ c ∈ t, c.isSurrogate = false) :
    (ofText t).read files =
      if CodePoint.ofNat 0 ∈ t then .error .nul else .ok (files (ofText t)) := by
  have hscalar : ∀ c ∈ (ofText t).text, c.isSurrogate = false := by
    intro c hc
    by_cases hslash : c = CodePoint.ofChar '/'
    · rw [hslash]; rfl
    by_cases hdot : c = CodePoint.ofChar '.'
    · rw [hdot]; rfl
    exact h c ((mem_text_ofText_iff hslash hdot).1 hc)
  have hnul : CodePoint.ofNat 0 ∈ (ofText t).text ↔ CodePoint.ofNat 0 ∈ t :=
    mem_text_ofText_iff (by decide) (by decide)
  rw [read, SystemText.fault?_of_forall_not_isSurrogate hscalar]
  by_cases ht : CodePoint.ofNat 0 ∈ t
  · rw [if_pos (hnul.2 ht), if_pos ht]
  · rw [if_neg (mt hnul.1 ht), if_neg ht]

end Path
end ApiGuide
