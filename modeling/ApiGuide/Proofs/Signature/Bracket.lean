/-
# Balanced brackets

A text is balanced if no beginning of it closes more brackets than it opens, and
all of it closes as many as it opens. The scan for the closing bracket keeps the
number of brackets that are open: over a text that stays open from a depth, it
passes on to what follows with the depth that the text leaves
(`upToClose_append`), so it finds nothing in it (`upToClose_eq_none_iff`); what it
finds closes as many brackets as were open (`exists_of_upToClose`). A balanced text
leaves the depth it finds, so the parameter list is the balanced text between the
first opening bracket and a closing one (`parameterList?_eq_some_iff`), and the
parameters are read from its pieces (`parameters_enclosed`).
-/

import ApiGuide.Signature.Basic
import ApiGuide.Proofs.Text.Cut
import Mathlib.Data.List.Infix

namespace ApiGuide
namespace Signature

/-- From so many open brackets, no beginning of the text closes more than are open. -/
def StaysOpen (depth : Nat) (t : Text) : Prop :=
  ∀ u, u <+: t → u.count (CodePoint.ofChar ')') ≤ depth + u.count (CodePoint.ofChar '(')

/-- No beginning of the text closes more brackets than it opens, and all of it
closes as many as it opens. -/
structure Balanced (t : Text) : Prop where
  closes_le : ∀ u, u <+: t → u.count (CodePoint.ofChar ')') ≤ u.count (CodePoint.ofChar '(')
  closes_eq : t.count (CodePoint.ofChar ')') = t.count (CodePoint.ofChar '(')

instance (t : Text) : Decidable (Balanced t) :=
  decidable_of_iff
    ((∀ u ∈ t.inits, u.count (CodePoint.ofChar ')') ≤ u.count (CodePoint.ofChar '(')) ∧
      t.count (CodePoint.ofChar ')') = t.count (CodePoint.ofChar '('))
    ⟨fun h => ⟨fun u hu => h.1 u ((List.mem_inits u t).2 hu), h.2⟩,
      fun h => ⟨fun u hu => h.closes_le u ((List.mem_inits u t).1 hu), h.closes_eq⟩⟩

/-- A balanced text closes nothing that it has not opened. -/
theorem Balanced.staysOpen {t : Text} (h : Balanced t) : StaysOpen 0 t :=
  fun u hu => by rw [Nat.zero_add]; exact h.closes_le u hu

/-- A text without brackets is balanced. -/
theorem balanced_of_not_mem {t : Text} (hopen : CodePoint.ofChar '(' ∉ t)
    (hclose : CodePoint.ofChar ')' ∉ t) : Balanced t := by
  refine ⟨fun u hu => ?_, ?_⟩
  · rw [List.count_eq_zero_of_not_mem fun hm => hclose (hu.subset hm)]
    exact Nat.zero_le _
  · rw [List.count_eq_zero_of_not_mem hopen, List.count_eq_zero_of_not_mem hclose]

/-- **Balanced texts one after another are balanced.** -/
theorem Balanced.append {s t : Text} (hs : Balanced s) (ht : Balanced t) : Balanced (s ++ t) := by
  refine ⟨fun u hu => ?_, ?_⟩
  · rcases List.prefix_or_prefix_of_prefix hu (List.prefix_append s t) with hus | ⟨v, rfl⟩
    · exact hs.closes_le u hus
    · have hv := ht.closes_le v ((List.prefix_append_right_inj s).1 hu)
      have hs' := hs.closes_eq
      rw [List.count_append, List.count_append]
      omega
  · rw [List.count_append, List.count_append, hs.closes_eq, ht.closes_eq]

/-- Balanced texts are balanced with a separator that is no bracket between them. -/
theorem Balanced.join {sep : Text} (hsep : Balanced sep) {pieces : List Text}
    (h : ∀ piece ∈ pieces, Balanced piece) : Balanced (Text.join sep pieces) := by
  induction pieces with
  | nil => exact balanced_of_not_mem (by simp [Text.join]) (by simp [Text.join])
  | cons piece pieces ih =>
    have hpiece := h piece List.mem_cons_self
    cases pieces with
    | nil => exact hpiece
    | cons next pieces =>
      exact (hpiece.append hsep).append (ih fun p hp => h p (List.mem_cons_of_mem _ hp))

/-! ### The scan for the closing bracket -/

/-- Behind an opening bracket, one more has to be closed. -/
theorem upToClose_open (depth : Nat) (rest : Text) :
    upToClose depth (CodePoint.ofChar '(' :: rest) =
      (upToClose (depth + 1) rest).map (CodePoint.ofChar '(' :: ·) := by
  rw [upToClose.eq_def]
  simp

/-- Behind a closing bracket, one less has to be closed. -/
theorem upToClose_close (depth : Nat) (rest : Text) :
    upToClose (depth + 1) (CodePoint.ofChar ')' :: rest) =
      (upToClose depth rest).map (CodePoint.ofChar ')' :: ·) := by
  rw [upToClose.eq_def]
  simp

/-- Another character changes nothing. -/
theorem upToClose_other {c : CodePoint} (hopen : c ≠ CodePoint.ofChar '(')
    (hclose : c ≠ CodePoint.ofChar ')') (depth : Nat) (rest : Text) :
    upToClose depth (c :: rest) = (upToClose depth rest).map (c :: ·) := by
  rw [upToClose.eq_def]
  simp [hopen, hclose]

/-- What the rest of a text does from the depth after its first character. -/
theorem StaysOpen.of_cons {depth depth' : Nat} {c : CodePoint} {t : Text}
    (h : StaysOpen depth (c :: t))
    (hdepth : depth + [c].count (CodePoint.ofChar '(') ≤
      depth' + [c].count (CodePoint.ofChar ')')) :
    StaysOpen depth' t := by
  intro u hu
  have hcu := h (c :: u) (List.cons_prefix_cons.2 ⟨rfl, hu⟩)
  rw [← List.singleton_append, List.count_append, List.count_append] at hcu
  omega

/-- **The scan passes over a text that stays open**, and goes on at the depth that
the text leaves. -/
theorem upToClose_append {depth : Nat} {t : Text} (h : StaysOpen depth t) (rest : Text) :
    upToClose depth (t ++ rest) =
      (upToClose (depth + t.count (CodePoint.ofChar '(') - t.count (CodePoint.ofChar ')')) rest).map
        (t ++ ·) := by
  induction t generalizing depth with
  | nil => simp
  | cons c t ih =>
    rw [List.cons_append]
    by_cases hopen : c = CodePoint.ofChar '('
    · subst hopen
      have ht : StaysOpen (depth + 1) t := h.of_cons (by simp)
      rw [upToClose_open, ih ht, Option.map_map, List.count_cons_self,
        List.count_cons_of_ne (by simp),
        show depth + 1 + t.count (CodePoint.ofChar '(') =
          depth + (t.count (CodePoint.ofChar '(') + 1) by omega]
      rfl
    · by_cases hclose : c = CodePoint.ofChar ')'
      · subst hclose
        have hfirst := h [CodePoint.ofChar ')'] ⟨t, rfl⟩
        obtain ⟨depth, rfl⟩ : ∃ d, depth = d + 1 :=
          Nat.exists_eq_succ_of_ne_zero fun h0 => by simp [h0] at hfirst
        have ht : StaysOpen depth t := h.of_cons (by simp)
        rw [upToClose_close, ih ht, Option.map_map, List.count_cons_self,
          List.count_cons_of_ne (by simp),
          show depth + 1 + t.count (CodePoint.ofChar '(') - (t.count (CodePoint.ofChar ')') + 1) =
            depth + t.count (CodePoint.ofChar '(') - t.count (CodePoint.ofChar ')') by omega]
        rfl
      · have ht : StaysOpen depth t := h.of_cons (by simp [hopen, hclose])
        rw [upToClose_other hopen hclose, ih ht, Option.map_map, List.count_cons_of_ne hopen,
          List.count_cons_of_ne hclose]
        rfl

/-- A character may stand before a text that stays open, if the depth allows for it. -/
theorem StaysOpen.cons {depth depth' : Nat} {c : CodePoint} {t : Text} (h : StaysOpen depth' t)
    (hdepth : depth' + [c].count (CodePoint.ofChar ')') ≤
      depth + [c].count (CodePoint.ofChar '(')) :
    StaysOpen depth (c :: t) := by
  intro u hu
  cases u with
  | nil => simp
  | cons d u =>
    obtain ⟨rfl, hut⟩ := List.cons_prefix_cons.1 hu
    have hcount := h u hut
    rw [← List.singleton_append, List.count_append, List.count_append]
    omega

/-- From so many open brackets, the text closes all of them but not the one before. -/
structure Closes (depth : Nat) (t : Text) : Prop where
  staysOpen : StaysOpen depth t
  count_eq : t.count (CodePoint.ofChar ')') = depth + t.count (CodePoint.ofChar '(')

/-- The empty text closes nothing. -/
theorem closes_nil : Closes 0 [] :=
  ⟨fun u hu => by rw [List.prefix_nil.1 hu]; exact Nat.zero_le _, rfl⟩

/-- A character before a text that closes brackets changes their number by its own kind. -/
theorem Closes.cons {depth depth' : Nat} {c : CodePoint} {t : Text} (h : Closes depth' t)
    (hdepth : depth' + [c].count (CodePoint.ofChar ')') =
      depth + [c].count (CodePoint.ofChar '(')) :
    Closes depth (c :: t) := by
  refine ⟨h.staysOpen.cons hdepth.le, ?_⟩
  have hcount := h.count_eq
  rw [← List.singleton_append, List.count_append, List.count_append]
  omega

/-- A text that closes all that it opens is balanced. -/
theorem Closes.balanced {t : Text} (h : Closes 0 t) : Balanced t := by
  refine ⟨fun u hu => ?_, ?_⟩
  · have hle := h.staysOpen u hu
    omega
  · have hcount := h.count_eq
    omega

/-- **What the scan finds** closes all brackets but the one that the next character
closes. -/
theorem exists_of_upToClose {depth : Nat} {t list : Text} (h : upToClose depth t = some list) :
    ∃ behind, t = list ++ CodePoint.ofChar ')' :: behind ∧ Closes depth list := by
  fun_induction upToClose depth t generalizing list with
  | case1 => simp at h
  | case2 depth rest ih =>
    -- An opening bracket: one more is open over the rest.
    obtain ⟨inner, hinner, rfl⟩ := Option.map_eq_some_iff.1 h
    obtain ⟨behind, rfl, hcloses⟩ := ih hinner
    exact ⟨behind, rfl, hcloses.cons (by simp)⟩
  | case3 rest =>
    obtain rfl := Option.some.inj h
    exact ⟨rest, rfl, closes_nil⟩
  | case4 rest _ depth ih =>
    -- A closing bracket, but not the last one that is open.
    obtain ⟨inner, hinner, rfl⟩ := Option.map_eq_some_iff.1 h
    obtain ⟨behind, rfl, hcloses⟩ := ih hinner
    exact ⟨behind, rfl, hcloses.cons (by simp)⟩
  | case5 depth c rest hopen hclose ih =>
    obtain ⟨inner, hinner, rfl⟩ := Option.map_eq_some_iff.1 h
    obtain ⟨behind, rfl, hcloses⟩ := ih hinner
    exact ⟨behind, rfl, hcloses.cons (by simp [hopen, hclose])⟩

/-- **The scan finds nothing** in a text that never closes more brackets than are open. -/
theorem upToClose_eq_none_iff {depth : Nat} {t : Text} :
    upToClose depth t = none ↔ StaysOpen depth t := by
  constructor
  · intro h
    fun_induction upToClose depth t with
    | case1 depth =>
      intro u hu
      rw [List.prefix_nil.1 hu]
      exact Nat.zero_le _
    | case2 depth rest ih => exact (ih (Option.map_eq_none_iff.1 h)).cons (by simp)
    | case3 rest => exact absurd h (Option.some_ne_none _)
    | case4 rest _ depth ih => exact (ih (Option.map_eq_none_iff.1 h)).cons (by simp)
    | case5 depth c rest hopen hclose ih =>
      exact (ih (Option.map_eq_none_iff.1 h)).cons (by simp [hopen, hclose])
  · intro h
    have hscan := upToClose_append h []
    rw [List.append_nil] at hscan
    rw [hscan, Option.map_eq_none_iff]
    exact upToClose.eq_1 _

/-- The scan begins behind the first opening bracket. -/
theorem parameterList?_append_cons {before : Text} (hbefore : CodePoint.ofChar '(' ∉ before)
    (inside : Text) :
    parameterList? (before ++ CodePoint.ofChar '(' :: inside) = upToClose 0 inside := by
  unfold parameterList?
  rw [Text.after?_append_cons hbefore, Option.bind_some]

/-- **A balanced text between brackets is the parameter list**, whatever stands
before the first opening bracket, which is this one, and behind the closing one. -/
theorem parameterList?_enclosed {before list : Text} (hbefore : CodePoint.ofChar '(' ∉ before)
    (hlist : Balanced list) (behind : Text) :
    parameterList? (before ++ CodePoint.ofChar '(' :: (list ++ CodePoint.ofChar ')' :: behind)) =
      some list := by
  rw [parameterList?_append_cons hbefore, upToClose_append hlist.staysOpen,
    Nat.zero_add, hlist.closes_eq, Nat.sub_self]
  simp [upToClose]

/-- **The parameters** are read from the pieces of a balanced text between brackets. -/
theorem parameters_enclosed {before list : Text} (hbefore : CodePoint.ofChar '(' ∉ before)
    (hlist : Balanced list) (behind : Text) :
    parameters (before ++ CodePoint.ofChar '(' :: (list ++ CodePoint.ofChar ')' :: behind)) =
      (splitParameters list).filterMap Parameter.ofPiece? := by
  unfold parameters
  rw [parameterList?_enclosed hbefore hlist]

/-- **The parameter list** is the balanced text between the first opening bracket and a
closing one. -/
theorem parameterList?_eq_some_iff {raw list : Text} :
    parameterList? raw = some list ↔ ∃ before behind,
      raw = before ++ CodePoint.ofChar '(' :: (list ++ CodePoint.ofChar ')' :: behind) ∧
        CodePoint.ofChar '(' ∉ before ∧ Balanced list := by
  constructor
  · intro h
    obtain ⟨inside, hinside, hclose⟩ := Option.bind_eq_some_iff.1 h
    obtain ⟨behind, rfl, hcloses⟩ := exists_of_upToClose hclose
    exact ⟨_, behind, Text.eq_upTo_append_of_after? hinside, Text.not_mem_upTo _ raw,
      hcloses.balanced⟩
  · rintro ⟨before, behind, rfl, hbefore, hlist⟩
    exact parameterList?_enclosed hbefore hlist behind

end Signature
end ApiGuide
