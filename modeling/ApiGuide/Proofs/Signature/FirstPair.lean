/-
# The first balanced pair of brackets

The parameter list of a signature is the balanced text between its first opening bracket
and a closing one. A signature has one such pair at most (`Enclosure.around_inj`), and it
has none if nothing closes the first bracket again (`parameterList?_eq_none_iff`):

| signature | first bracket | parameter list |
| --- | --- | --- |
| `)f(a, g(b)) -> (c` | closed behind `a, g(b)` | `a, g(b)` |
| `f((a)` | never closed | none |
| `f)` | there is none | none |

What stands before the first bracket, a closing one included, and what stands behind the
one that closes it play no part (`parameterList?_first_pair`).
-/

import ApiGuide.Proofs.Signature.Sequence

namespace ApiGuide
namespace Signature

variable {raw list list' : Text} {e e' : Enclosure}

/-! ### At most one pair -/

/-- **The list in an enclosure is found again.** -/
theorem parameterList?_around (h : Balanced list) (e : Enclosure) :
    parameterList? (e.around list) = some list :=
  parameterList?_enclosed e.bracket_not_mem h e.behind

/-- **A text is enclosed in one way only**: there is one first opening bracket, and one
closing bracket with a balanced text before it. -/
theorem Enclosure.around_inj (h : Balanced list) (h' : Balanced list')
    (haround : e.around list = e'.around list') : e = e' ∧ list = list' := by
  have hlist : some list = some list' := by
    rw [← parameterList?_around h e, haround, parameterList?_around h' e']
  obtain rfl := Option.some.inj hlist
  obtain ⟨before, behind, hbefore⟩ := e
  obtain ⟨before', behind', hbefore'⟩ := e'
  obtain ⟨rfl, hinside⟩ := (Text.append_cons_inj hbefore hbefore').1 haround
  obtain ⟨-, rfl⟩ := List.cons.inj (List.append_cancel_left hinside)
  exact ⟨rfl, rfl⟩

/-! ### No pair -/

/-- Every beginning of the text that reaches the first opening bracket opens, counted from
that bracket on, more brackets than it closes. -/
def NeverCloses (raw : Text) : Prop :=
  ∃ before inside, raw = before ++ CodePoint.ofChar '(' :: inside ∧
    CodePoint.ofChar '(' ∉ before ∧ ∀ u, u <+: CodePoint.ofChar '(' :: inside → u ≠ [] →
      u.count (CodePoint.ofChar ')') < u.count (CodePoint.ofChar '(')

/-- An opening bracket is never closed if behind it no beginning of the text closes more
brackets than it opens. -/
theorem staysOpen_zero_iff {inside : Text} :
    StaysOpen 0 inside ↔ ∀ u, u <+: CodePoint.ofChar '(' :: inside → u ≠ [] →
      u.count (CodePoint.ofChar ')') < u.count (CodePoint.ofChar '(') := by
  have hcount : ∀ v : Text, (CodePoint.ofChar '(' :: v).count (CodePoint.ofChar ')') <
      (CodePoint.ofChar '(' :: v).count (CodePoint.ofChar '(') ↔
      v.count (CodePoint.ofChar ')') ≤ 0 + v.count (CodePoint.ofChar '(') := by
    intro v
    rw [List.count_cons_self, List.count_cons_of_ne (by simp), Nat.zero_add, Nat.lt_succ_iff]
  constructor
  · intro h u hu hne
    obtain ⟨c, v, rfl⟩ := List.exists_cons_of_ne_nil hne
    obtain ⟨rfl, hv⟩ := List.cons_prefix_cons.1 hu
    exact (hcount v).2 (h v hv)
  · intro h v hv
    exact (hcount v).1 (h _ (List.cons_prefix_cons.2 ⟨rfl, hv⟩) (List.cons_ne_nil _ _))

/-- **There is no parameter list** if there is no opening bracket, or the first one is
never closed. -/
theorem parameterList?_eq_none_iff :
    parameterList? raw = none ↔ CodePoint.ofChar '(' ∉ raw ∨ NeverCloses raw := by
  by_cases hmem : CodePoint.ofChar '(' ∈ raw
  · obtain ⟨before, inside, rfl, hbefore⟩ := List.eq_append_cons_of_mem hmem
    rw [parameterList?_append_cons hbefore, upToClose_eq_none_iff, staysOpen_zero_iff]
    constructor
    · exact fun h => Or.inr ⟨before, inside, rfl, hbefore, h⟩
    · rintro (hno | ⟨before', inside', hraw, hbefore', h⟩)
      · exact absurd hmem hno
      · obtain ⟨-, rfl⟩ := (Text.append_cons_inj hbefore hbefore').1 hraw
        exact h
  · have hnone : parameterList? raw = none := by
      unfold parameterList?
      rw [Text.after?_eq_none_iff.2 hmem, Option.bind_none]
    exact iff_of_true hnone (Or.inl hmem)

/-! ### The scan as a whole -/

/-- **The parameter list is the inside of the first balanced pair.** It is the text that
the signature encloses, in the one way there is, and there is none exactly if nothing is
enclosed, that is, if there is no opening bracket or the first one is never closed. Other
texts around the pair, and before a first bracket that is never closed, change nothing. -/
theorem parameterList?_first_pair (raw : Text) :
    (∀ list, parameterList? raw = some list ↔
      ∃ e : Enclosure, raw = e.around list ∧ Balanced list) ∧
    (∀ (e e' : Enclosure) (list list' : Text), raw = e.around list → Balanced list →
      raw = e'.around list' → Balanced list' → e = e' ∧ list = list') ∧
    (parameterList? raw = none ↔
      ∀ (e : Enclosure) (list : Text), Balanced list → raw ≠ e.around list) ∧
    (parameterList? raw = none ↔ CodePoint.ofChar '(' ∉ raw ∨ NeverCloses raw) ∧
    (∀ (e e' : Enclosure) (list : Text), raw = e.around list → Balanced list →
      parameterList? (e'.around list) = parameterList? raw) ∧
    (∀ before before' inside : Text, raw = before ++ CodePoint.ofChar '(' :: inside →
      CodePoint.ofChar '(' ∉ before → CodePoint.ofChar '(' ∉ before' →
      parameterList? (before' ++ CodePoint.ofChar '(' :: inside) = parameterList? raw) := by
  have hsome : ∀ list, parameterList? raw = some list ↔
      ∃ e : Enclosure, raw = e.around list ∧ Balanced list := by
    intro list
    rw [parameterList?_eq_some_iff]
    constructor
    · rintro ⟨before, behind, hraw, hbefore, hlist⟩
      exact ⟨⟨before, behind, hbefore⟩, hraw, hlist⟩
    · rintro ⟨e, hraw, hlist⟩
      exact ⟨e.before, e.behind, hraw, e.bracket_not_mem, hlist⟩
  refine ⟨hsome, ?_, ?_, parameterList?_eq_none_iff, ?_, ?_⟩
  · intro e e' list list' hraw hlist hraw' hlist'
    exact Enclosure.around_inj hlist hlist' (hraw.symm.trans hraw')
  · rw [Option.eq_none_iff_forall_ne_some]
    constructor
    · exact fun h e list hlist hraw => h list ((hsome list).2 ⟨e, hraw, hlist⟩)
    · intro h list hread
      obtain ⟨e, hraw, hlist⟩ := (hsome list).1 hread
      exact h e list hlist hraw
  · rintro e e' list rfl hlist
    rw [parameterList?_around hlist, parameterList?_around hlist]
  · rintro before before' inside rfl hbefore hbefore'
    rw [parameterList?_append_cons hbefore', parameterList?_append_cons hbefore]

/-- A nested pair with stray brackets around it, and a bracket that is never closed. -/
theorem parameterList?_first_pair_nested :
    Balanced "a, g(b)" ∧ parameterList? ")f(a, g(b)) -> (c" = some ↑"a, g(b)" ∧
      parameterList? "h(a, g(b))(" = parameterList? ")f(a, g(b)) -> (c" ∧
      NeverCloses ")f((a)" := by
  have hlist : Balanced "a, g(b)" := by decide
  have hraw : (")f(a, g(b)) -> (c" : Text) =
      Enclosure.around ⟨")f", " -> (c", by decide⟩ "a, g(b)" := by decide
  obtain ⟨hsome, -, -, -, hbehind, -⟩ := parameterList?_first_pair ")f(a, g(b)) -> (c"
  obtain ⟨-, -, -, hnone, -, -⟩ := parameterList?_first_pair ")f((a)"
  exact ⟨hlist, (hsome _).2 ⟨_, hraw, hlist⟩,
    hbehind _ ⟨"h", "(", by decide⟩ _ hraw hlist,
    (hnone.1 (by decide)).resolve_left (by decide)⟩

end Signature
end ApiGuide
