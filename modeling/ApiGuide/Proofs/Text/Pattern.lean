/-
# Patterns

A pattern fits the front of a text in no way, in one or in several, and its groups note
what they take. The ways have an order of preference:

| pattern | takes | order of its ways |
| --- | --- | --- |
| `one p` | a character of the class | |
| `many p` | a run of the class, perhaps none | longest first |
| `few p` | a run of the class, perhaps none | shortest first |
| `cat a b` | what `a` takes, then what `b` takes behind it | as of `a`, then as of `b` |
| `maybe a` | what `a` takes, or nothing | nothing last |
| `group a` | what `a` takes, and notes it | as of `a` |
| `stop` | nothing, at the end or before a line feed at the end | |

A search goes through a text from the left and ends at the first position where the
pattern fits, with the way that is preferred there (`search?`). What a pattern can take
and note, in whatever order, is said by `Fits`, with a lemma for each pattern.
-/

import ApiGuide.Text.Basic

namespace ApiGuide

/-- A pattern for the front of a text. -/
inductive Pattern where
  | one (p : CodePoint → Bool)
  | many (p : CodePoint → Bool)
  | few (p : CodePoint → Bool)
  | cat (a b : Pattern)
  | maybe (a : Pattern)
  | group (a : Pattern)
  | stop

namespace Pattern

/-- A way in which a pattern fits a text: what it takes off the front, what its groups
note from the left, and what it leaves. -/
structure Way where
  taken : Text
  groups : List Text
  rest : Text

/-- The cuts behind a run of a class at the front of a text, shortest run first. -/
def runs (p : CodePoint → Bool) : Text → List (Text × Text)
  | [] => [([], [])]
  | c :: t => ([], c :: t) :: if p c then (runs p t).map fun cut => (c :: cut.1, cut.2) else []

/-- The ways in which a pattern fits a text, the preferred one first. -/
def ways : Pattern → Text → List Way
  | one _, [] => []
  | one p, c :: t => if p c then [⟨[c], [], t⟩] else []
  | many p, t => ((runs p t).map fun cut => ⟨cut.1, [], cut.2⟩).reverse
  | few p, t => (runs p t).map fun cut => ⟨cut.1, [], cut.2⟩
  | cat a b, t => (a.ways t).flatMap fun way => (b.ways way.rest).map fun next =>
      ⟨way.taken ++ next.taken, way.groups ++ next.groups, next.rest⟩
  | maybe a, t => a.ways t ++ [⟨[], [], t⟩]
  | group a, t => (a.ways t).map fun way => ⟨way.taken, way.taken :: way.groups, way.rest⟩
  | stop, t => if t = [] ∨ t = [CodePoint.ofChar '\n'] then [⟨[], [], t⟩] else []

example : ((many (· = CodePoint.ofChar 'a')).ways "aab").map Way.taken = [↑"aa", ↑"a", []] ∧
    ((few (· = CodePoint.ofChar 'a')).ways "aab").map Way.taken = [[], ↑"a", ↑"aa"] := by decide

/-- The preferred way at the first position of a text where the pattern fits. -/
def search? (a : Pattern) : Text → Option Way
  | [] => (a.ways []).head?
  | c :: t => (a.ways (c :: t)).head?.or (a.search? t)

/-- A character of a class, and as many more as there are. -/
def oneOrMore (p : CodePoint → Bool) : Pattern := .cat (.one p) (.many p)

/-- A character of a class, and as few more as will do. -/
def oneOrFew (p : CodePoint → Bool) : Pattern := .cat (.one p) (.few p)

/-- The pattern fits a text in a way that notes `groups` and leaves `rest`. -/
def Fits (a : Pattern) (t : Text) (groups : List Text) (rest : Text) : Prop :=
  ∃ way ∈ a.ways t, way.groups = groups ∧ way.rest = rest

variable {p : CodePoint → Bool} {a b : Pattern} {t run rest : Text} {groups : List Text} {way : Way}

/-- The cuts are those behind a run of the class. -/
theorem mem_runs_iff : (run, rest) ∈ runs p t ↔ t = run ++ rest ∧ ∀ c ∈ run, p c = true := by
  induction t generalizing run rest with
  | nil =>
    rw [runs, List.mem_singleton, Prod.mk.injEq, eq_comm (b := run ++ rest), List.append_eq_nil_iff]
    constructor
    · rintro ⟨rfl, rfl⟩
      exact ⟨⟨rfl, rfl⟩, fun c hc => absurd hc List.not_mem_nil⟩
    · exact And.left
  | cons c t ih =>
    rw [runs, List.mem_cons, Prod.mk.injEq]
    constructor
    · rintro (⟨rfl, rfl⟩ | h)
      · exact ⟨rfl, fun d hd => absurd hd List.not_mem_nil⟩
      · split at h
        · rename_i hc
          obtain ⟨⟨run', rest'⟩, hcut, hpair⟩ := List.mem_map.1 h
          obtain ⟨rfl, rfl⟩ := Prod.mk.inj hpair
          obtain ⟨rfl, hrun⟩ := ih.1 hcut
          exact ⟨rfl, List.forall_mem_cons.2 ⟨hc, hrun⟩⟩
        · exact absurd h List.not_mem_nil
    · rintro ⟨ht, hrun⟩
      cases run with
      | nil => exact Or.inl ⟨rfl, ht.symm⟩
      | cons d run =>
        obtain ⟨rfl, rfl⟩ := List.cons.inj ht
        obtain ⟨hc, hrun⟩ := List.forall_mem_cons.1 hrun
        rw [if_pos hc]
        exact Or.inr (List.mem_map.2 ⟨(run, rest), ih.2 ⟨rfl, hrun⟩, rfl⟩)

/-- One character of a class is taken in one way. -/
theorem mem_ways_one_iff :
    way ∈ (one p).ways t ↔ ∃ c rest, t = c :: rest ∧ p c = true ∧ way = ⟨[c], [], rest⟩ := by
  cases t with
  | nil => simp [ways]
  | cons c t =>
    rw [ways, List.mem_ite_nil_right, List.mem_singleton]
    constructor
    · rintro ⟨hc, rfl⟩
      exact ⟨c, t, rfl, hc, rfl⟩
    · rintro ⟨d, rest, ht, hd, rfl⟩
      obtain ⟨rfl, rfl⟩ := List.cons.inj ht
      exact ⟨hd, rfl⟩

/-- The end is before nothing, or before a line break that is the last. -/
theorem mem_ways_stop_iff :
    way ∈ stop.ways t ↔ (t = [] ∨ t = [CodePoint.ofChar '\n']) ∧ way = ⟨[], [], t⟩ := by
  rw [ways, List.mem_ite_nil_right, List.mem_singleton]

/-- **A way cuts the text in two.** -/
theorem eq_append_of_mem_ways (h : way ∈ a.ways t) : t = way.taken ++ way.rest := by
  induction a generalizing t way with
  | one p =>
    obtain ⟨c, rest, rfl, -, rfl⟩ := mem_ways_one_iff.1 h
    rfl
  | many p =>
    obtain ⟨cut, hcut, rfl⟩ := List.mem_map.1 (List.mem_reverse.1 h)
    exact (mem_runs_iff.1 hcut).1
  | few p =>
    obtain ⟨cut, hcut, rfl⟩ := List.mem_map.1 h
    exact (mem_runs_iff.1 hcut).1
  | cat a b iha ihb =>
    obtain ⟨first, hfirst, hway⟩ := List.mem_flatMap.1 h
    obtain ⟨next, hnext, rfl⟩ := List.mem_map.1 hway
    show t = first.taken ++ next.taken ++ next.rest
    rw [iha hfirst, ihb hnext, List.append_assoc]
  | maybe a ih =>
    rcases List.mem_append.1 h with h | h
    · exact ih h
    · obtain rfl := List.mem_singleton.1 h
      rfl
  | group a ih =>
    obtain ⟨inner, hinner, rfl⟩ := List.mem_map.1 h
    show t = inner.taken ++ inner.rest
    exact ih hinner
  | stop =>
    obtain ⟨-, rfl⟩ := mem_ways_stop_iff.1 h
    rfl

/-! ### What a pattern fits -/

/-- A single character fits where the text begins with it. -/
theorem fits_one_iff :
    (one p).Fits t groups rest ↔ groups = [] ∧ ∃ c, p c = true ∧ t = c :: rest := by
  constructor
  · rintro ⟨way, hway, rfl, rfl⟩
    obtain ⟨c, rest, rfl, hc, rfl⟩ := mem_ways_one_iff.1 hway
    exact ⟨rfl, c, hc, rfl⟩
  · rintro ⟨rfl, c, hc, rfl⟩
    exact ⟨_, mem_ways_one_iff.2 ⟨c, rest, rfl, hc, rfl⟩, rfl, rfl⟩

/-- A lazy run fits where the text begins with a run of the class. -/
theorem fits_few_iff : (few p).Fits t groups rest ↔
    groups = [] ∧ ∃ run, t = run ++ rest ∧ ∀ c ∈ run, p c = true := by
  constructor
  · rintro ⟨way, hway, rfl, rfl⟩
    obtain ⟨cut, hcut, rfl⟩ := List.mem_map.1 hway
    exact ⟨rfl, cut.1, mem_runs_iff.1 hcut⟩
  · rintro ⟨rfl, run, hrun⟩
    exact ⟨_, List.mem_map.2 ⟨(run, rest), mem_runs_iff.2 hrun, rfl⟩, rfl, rfl⟩

/-- Greed does not change what fits. -/
theorem fits_many_iff : (many p).Fits t groups rest ↔
    groups = [] ∧ ∃ run, t = run ++ rest ∧ ∀ c ∈ run, p c = true := by
  rw [← fits_few_iff]
  simp only [Fits, ways, List.mem_reverse]

/-- One pattern behind another fits where they fit in turn. -/
theorem fits_cat_iff : (cat a b).Fits t groups rest ↔
    ∃ groups₁ middle groups₂, a.Fits t groups₁ middle ∧ b.Fits middle groups₂ rest ∧
      groups = groups₁ ++ groups₂ := by
  constructor
  · rintro ⟨way, hway, rfl, rfl⟩
    obtain ⟨first, hfirst, hway⟩ := List.mem_flatMap.1 hway
    obtain ⟨next, hnext, rfl⟩ := List.mem_map.1 hway
    exact ⟨_, _, _, ⟨first, hfirst, rfl, rfl⟩, ⟨next, hnext, rfl, rfl⟩, rfl⟩
  · rintro ⟨_, _, _, ⟨first, hfirst, rfl, rfl⟩, ⟨next, hnext, rfl, rfl⟩, rfl⟩
    exact ⟨_, List.mem_flatMap.2 ⟨first, hfirst, List.mem_map.2 ⟨next, hnext, rfl⟩⟩, rfl, rfl⟩

/-- Patterns that fit in turn fit one behind the other. -/
theorem Fits.cat {middle : Text} {groups' : List Text} (ha : a.Fits t groups middle)
    (hb : b.Fits middle groups' rest) : (cat a b).Fits t (groups ++ groups') rest :=
  fits_cat_iff.2 ⟨groups, middle, groups', ha, hb, rfl⟩

/-- An optional pattern fits where the pattern does, or nothing is taken. -/
theorem fits_maybe_iff :
    (maybe a).Fits t groups rest ↔ a.Fits t groups rest ∨ groups = [] ∧ t = rest := by
  constructor
  · rintro ⟨way, hway, rfl, rfl⟩
    rcases List.mem_append.1 hway with hway | hway
    · exact Or.inl ⟨way, hway, rfl, rfl⟩
    · obtain rfl := List.mem_singleton.1 hway
      exact Or.inr ⟨rfl, rfl⟩
  · rintro (⟨way, hway, rfl, rfl⟩ | ⟨rfl, rfl⟩)
    · exact ⟨way, List.mem_append_left _ hway, rfl, rfl⟩
    · exact ⟨_, List.mem_append_right _ (List.mem_singleton.2 rfl), rfl, rfl⟩

/-- **A group notes what stands before the rest.** -/
theorem fits_group_iff : (group a).Fits t groups rest ↔
    ∃ taken inner, a.Fits t inner rest ∧ t = taken ++ rest ∧ groups = taken :: inner := by
  constructor
  · rintro ⟨way, hway, rfl, rfl⟩
    obtain ⟨inner, hinner, rfl⟩ := List.mem_map.1 hway
    exact ⟨inner.taken, inner.groups, ⟨inner, hinner, rfl, rfl⟩, eq_append_of_mem_ways hinner, rfl⟩
  · rintro ⟨taken, _, ⟨inner, hinner, rfl, rfl⟩, ht, rfl⟩
    have hcut := eq_append_of_mem_ways hinner
    obtain rfl := List.append_cancel_right (ht.symm.trans hcut)
    exact ⟨_, List.mem_map.2 ⟨inner, hinner, rfl⟩, rfl, rfl⟩

/-- The end fits where nothing is left, or a line break. -/
theorem fits_stop_iff : stop.Fits t groups rest ↔
    groups = [] ∧ t = rest ∧ (rest = [] ∨ rest = [CodePoint.ofChar '\n']) := by
  constructor
  · rintro ⟨way, hway, rfl, rfl⟩
    obtain ⟨hend, rfl⟩ := mem_ways_stop_iff.1 hway
    exact ⟨rfl, rfl, hend⟩
  · rintro ⟨rfl, rfl, hend⟩
    exact ⟨_, mem_ways_stop_iff.2 ⟨hend, rfl⟩, rfl, rfl⟩

/-- A greedy run of one at least fits where the text begins with such a run. -/
theorem fits_oneOrMore_iff : (oneOrMore p).Fits t groups rest ↔
    groups = [] ∧ ∃ run, run ≠ [] ∧ t = run ++ rest ∧ ∀ c ∈ run, p c = true := by
  simp only [oneOrMore, fits_cat_iff, fits_one_iff, fits_many_iff]
  constructor
  · rintro ⟨_, _, _, ⟨rfl, c, hc, rfl⟩, ⟨rfl, run, rfl, hrun⟩, rfl⟩
    exact ⟨rfl, c :: run, List.cons_ne_nil c run, rfl, List.forall_mem_cons.2 ⟨hc, hrun⟩⟩
  · rintro ⟨rfl, run, hne, rfl, hrun⟩
    obtain ⟨c, run, rfl⟩ := List.exists_cons_of_ne_nil hne
    obtain ⟨hc, hrun⟩ := List.forall_mem_cons.1 hrun
    exact ⟨[], run ++ rest, [], ⟨rfl, c, hc, rfl⟩, ⟨rfl, run, rfl, hrun⟩, rfl⟩

/-- A lazy run of one at least fits where the text begins with such a run. -/
theorem fits_oneOrFew_iff : (oneOrFew p).Fits t groups rest ↔
    groups = [] ∧ ∃ run, run ≠ [] ∧ t = run ++ rest ∧ ∀ c ∈ run, p c = true := by
  rw [← fits_oneOrMore_iff]
  simp only [oneOrFew, oneOrMore, fits_cat_iff, fits_many_iff, fits_few_iff]

/-- A group of characters of a class notes a run of it, one character at least. -/
theorem fits_group_oneOrMore_iff : (group (oneOrMore p)).Fits t groups rest ↔
    ∃ run, t = run ++ rest ∧ groups = [run] ∧ run ≠ [] ∧ ∀ c ∈ run, p c = true := by
  rw [fits_group_iff]
  constructor
  · rintro ⟨taken, _, hinner, ht, rfl⟩
    obtain ⟨rfl, run, hne, ht', hrun⟩ := fits_oneOrMore_iff.1 hinner
    obtain rfl := List.append_cancel_right (ht.symm.trans ht')
    exact ⟨_, ht, rfl, hne, hrun⟩
  · rintro ⟨run, ht, rfl, hne, hrun⟩
    exact ⟨run, [], fits_oneOrMore_iff.2 ⟨rfl, run, hne, ht, hrun⟩, ht, rfl⟩

/-- A group around a lazy run keeps the run. -/
theorem fits_group_oneOrFew_iff : (group (oneOrFew p)).Fits t groups rest ↔
    ∃ run, t = run ++ rest ∧ groups = [run] ∧ run ≠ [] ∧ ∀ c ∈ run, p c = true := by
  rw [← fits_group_oneOrMore_iff]
  simp only [fits_group_iff, fits_oneOrMore_iff, fits_oneOrFew_iff]

end Pattern
end ApiGuide
