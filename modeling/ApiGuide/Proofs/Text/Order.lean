/-
# The order of texts

Code points are in the order of their numbers, and texts in the order of the first code
point that tells them apart, where a text comes before its continuations. Both orders are
linear, so the test by which a list is sorted is transitive and total, and texts that are
different are in strict order.
-/

import ApiGuide.Text.Basic

namespace ApiGuide

instance : Std.IsLinearOrder CodePoint where
  le_refl a := Nat.le_refl a.val
  le_trans _ _ _ := Nat.le_trans
  le_antisymm _ _ h h' := CodePoint.ext_val (Nat.le_antisymm h h')
  le_total a b := Nat.le_total a.val b.val

instance : Std.LawfulOrderLT CodePoint where
  lt_iff a b := by
    show a.val < b.val ↔ a.val ≤ b.val ∧ ¬ b.val ≤ a.val
    omega

namespace Text

/-- The order of texts is transitive. -/
theorem atMost_trans (s t u : Text) (hst : s.atMost t = true) (htu : t.atMost u = true) :
    s.atMost u = true :=
  decide_eq_true (List.le_trans (of_decide_eq_true hst) (of_decide_eq_true htu))

/-- Any two texts are in order. -/
theorem atMost_total (s t : Text) : (s.atMost t || t.atMost s) = true := by
  rw [Bool.or_eq_true]
  exact (List.le_total s t).imp decide_eq_true decide_eq_true

/-- Different texts in order are strictly so. -/
theorem lt_of_atMost_of_ne {s t : Text} (h : s.atMost t = true) (hne : s ≠ t) : s < t :=
  (List.le_iff_lt_or_eq.1 (of_decide_eq_true h)).resolve_right hne

/-- What two texts have in common at their beginning does not matter for their order. -/
theorem append_lt_append_iff (common s t : Text) : common ++ s < common ++ t ↔ s < t := by
  induction common with
  | nil => rfl
  | cons c common ih =>
    rw [List.cons_append, List.cons_append, List.cons_lt_cons_iff, ih]
    refine ⟨fun h => ?_, fun h => Or.inr ⟨rfl, h⟩⟩
    rcases h with hc | ⟨-, hrest⟩
    · exact absurd hc (Std.lt_irrefl)
    · exact hrest

end Text
end ApiGuide
