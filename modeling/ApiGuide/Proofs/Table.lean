/-
# Lists of entries as tables

A list of entries without repeated names is the table that it makes: nothing is
replaced, and every entry keeps its place (`entries_ofList`). With repeated names, the
entries of the table are still among those of the list (`mem_of_mem_entries_ofList`).

Of a table, entries can be left out and the values of others changed; what a name has
then depends on its own entry alone (`get?_filterMap`).

Reading the values of a table is reading those of its entries, one after the other
(`traverse_eq_ok_iff`, `traverse_eq_error_iff`).
-/

import ApiGuide.Table

namespace ApiGuide
namespace Table

variable {α : Type}

/-- The value of a name is that of an entry. -/
theorem mem_of_lookup? {name : Text} {a : α} {entries : List (Text × α)}
    (h : lookup? name entries = some a) : (name, a) ∈ entries := by
  induction entries with
  | nil => simp [lookup?] at h
  | cons entry rest ih =>
    obtain ⟨k, b⟩ := entry
    unfold lookup? at h
    split at h
    · rename_i hk
      obtain rfl := Option.some.inj h
      exact hk ▸ List.mem_cons_self
    · exact List.mem_cons_of_mem _ (ih h)

/-- **A name has the value of its entry**, if no name is repeated. -/
theorem lookup?_of_mem {name : Text} {a : α} {entries : List (Text × α)}
    (hnodup : (entries.map Prod.fst).Nodup) (h : (name, a) ∈ entries) :
    lookup? name entries = some a := by
  induction entries with
  | nil => exact absurd h List.not_mem_nil
  | cons entry rest ih =>
    obtain ⟨k, b⟩ := entry
    rw [List.map_cons, List.nodup_cons] at hnodup
    rcases List.mem_cons.1 h with heq | hrest
    · obtain ⟨rfl, rfl⟩ := Prod.mk.inj heq
      exact if_pos rfl
    · have hne : k ≠ name := by
        rintro rfl
        exact hnodup.1 (List.mem_map.2 ⟨_, hrest, rfl⟩)
      exact (if_neg hne).trans (ih hnodup.2 hrest)

/-- **The entries of a table** are the names with their values. -/
theorem mem_entries_iff {t : Table α} {name : Text} {a : α} :
    (name, a) ∈ t.entries ↔ t.get? name = some a :=
  ⟨lookup?_of_mem t.nodup, mem_of_lookup?⟩

/-- **The order of the entries** does not matter for the value of a name. -/
theorem lookup?_perm {entries entries' : List (Text × α)}
    (hnodup : (entries.map Prod.fst).Nodup) (h : entries.Perm entries') (name : Text) :
    lookup? name entries = lookup? name entries' := by
  have hnodup' : (entries'.map Prod.fst).Nodup := (h.map Prod.fst).nodup_iff.1 hnodup
  refine Option.ext fun a => ⟨fun hget => ?_, fun hget => ?_⟩
  · exact lookup?_of_mem hnodup' (h.mem_iff.1 (mem_of_lookup? hget))
  · exact lookup?_of_mem hnodup (h.mem_iff.2 (mem_of_lookup? hget))

/-- A new name is put at the end. -/
theorem put_of_not_mem {name : Text} {a : α} {entries : List (Text × α)}
    (h : name ∉ entries.map Prod.fst) : put name a entries = entries ++ [(name, a)] := by
  induction entries with
  | nil => rfl
  | cons entry rest ih =>
    obtain ⟨k, b⟩ := entry
    rw [List.map_cons, List.mem_cons, not_or] at h
    rw [put, if_neg (Ne.symm h.1), ih h.2, List.cons_append]

/-- New names are inserted behind the others, in order. -/
theorem entries_foldl_insert {t : Table α} {entries : List (Text × α)}
    (h : ((t.entries ++ entries).map Prod.fst).Nodup) :
    (entries.foldl (fun t entry => t.insert entry.1 entry.2) t).entries = t.entries ++ entries := by
  induction entries generalizing t with
  | nil => rw [List.foldl_nil, List.append_nil]
  | cons entry rest ih =>
    have hnew : entry.1 ∉ t.entries.map Prod.fst := by
      rw [List.map_append, List.nodup_append] at h
      exact fun hm => h.2.2 _ hm _ (List.mem_map_of_mem List.mem_cons_self) rfl
    have hput : (t.insert entry.1 entry.2).entries = t.entries ++ [entry] := put_of_not_mem hnew
    have hsplit : t.entries ++ entry :: rest = (t.insert entry.1 entry.2).entries ++ rest := by
      rw [hput, List.append_assoc, List.singleton_append]
    rw [List.foldl_cons, hsplit]
    exact ih (hsplit ▸ h)

/-- **Entries without repeated names make the table that lists them.** -/
theorem entries_ofList {entries : List (Text × α)} (h : (entries.map Prod.fst).Nodup) :
    (ofList entries).entries = entries :=
  entries_foldl_insert h

/-- A table is made of its entries. -/
theorem ofList_entries (t : Table α) : ofList t.entries = t :=
  ext_entries (entries_ofList t.nodup)

/-- Putting adds no entry but the one that is put. -/
theorem mem_of_mem_put {name : Text} {a : α} {entries : List (Text × α)}
    {entry : Text × α} (h : entry ∈ put name a entries) : entry = (name, a) ∨ entry ∈ entries := by
  induction entries with
  | nil => exact Or.inl (List.mem_singleton.1 h)
  | cons next rest ih =>
    obtain ⟨k, b⟩ := next
    unfold put at h
    split at h
    · rcases List.mem_cons.1 h with hfirst | hrest
      · exact Or.inl hfirst
      · exact Or.inr (List.mem_cons_of_mem _ hrest)
    · rcases List.mem_cons.1 h with hfirst | hrest
      · exact Or.inr (hfirst ▸ List.mem_cons_self)
      · exact (ih hrest).imp_right (List.mem_cons_of_mem _)

/-- Insertions bring no entries but their own. -/
theorem mem_of_mem_foldl_insert {t : Table α} {entries : List (Text × α)} {entry : Text × α}
    (h : entry ∈ (entries.foldl (fun t entry => t.insert entry.1 entry.2) t).entries) :
    entry ∈ t.entries ∨ entry ∈ entries := by
  induction entries generalizing t with
  | nil => exact Or.inl h
  | cons next rest ih =>
    rcases ih h with hput | hrest
    · rcases mem_of_mem_put hput with rfl | hold
      · exact Or.inr List.mem_cons_self
      · exact Or.inl hold
    · exact Or.inr (List.mem_cons_of_mem _ hrest)

/-- The entries of a table are among those that it was made of. -/
theorem mem_of_mem_entries_ofList {entries : List (Text × α)} {entry : Text × α}
    (h : entry ∈ (ofList entries).entries) : entry ∈ entries :=
  (mem_of_mem_foldl_insert h).resolve_left List.not_mem_nil

/-! ### Choosing and changing entries -/

section FilterMap

variable {β : Type}

/-- The table of what is made of each name and its value, where something is made of them. -/
def filterMap (t : Table α) (f : Text → α → Option β) : Table β where
  entries := t.entries.filterMap fun entry => (f entry.1 entry.2).map (Prod.mk entry.1)
  nodup := by
    refine t.nodup.sublist ?_
    induction t.entries with
    | nil => exact List.Sublist.refl []
    | cons entry rest ih =>
      rw [List.filterMap_cons]
      cases f entry.1 entry.2 with
      | none => exact ih.cons _
      | some b => exact ih.cons_cons _

/-- An entry of a filtered table comes from one of the table. -/
theorem mem_entries_filterMap {t : Table α} {f : Text → α → Option β} {entry : Text × β} :
    entry ∈ (t.filterMap f).entries ↔
      ∃ a, (entry.1, a) ∈ t.entries ∧ f entry.1 a = some entry.2 := by
  obtain ⟨name, b⟩ := entry
  unfold filterMap
  rw [List.mem_filterMap]
  constructor
  · rintro ⟨⟨k, a⟩, hmem, hmade⟩
    obtain ⟨b', hb, heq⟩ := Option.map_eq_some_iff.1 hmade
    obtain ⟨rfl, rfl⟩ := Prod.mk.inj heq
    exact ⟨a, hmem, hb⟩
  · rintro ⟨a, hmem, hb⟩
    exact ⟨_, hmem, Option.map_eq_some_iff.2 ⟨b, hb, rfl⟩⟩

/-- **A name has what is made of its value.** -/
theorem get?_filterMap (t : Table α) (f : Text → α → Option β) (name : Text) :
    (t.filterMap f).get? name = (t.get? name).bind (f name) := by
  refine Option.ext fun b => ?_
  rw [← mem_entries_iff, mem_entries_filterMap, Option.bind_eq_some_iff]
  exact exists_congr fun a => and_congr_left' mem_entries_iff

end FilterMap

/-! ### Two tables -/

/-- Two tables have the same names, and related values under each of them. -/
def Related {β : Type} (R : Text → α → β → Prop) (t : Table α) (u : Table β) : Prop :=
  ∀ name, Option.Rel (R name) (t.get? name) (u.get? name)

section Related

variable {β : Type} {R : Text → α → β → Prop} {t : Table α} {u : Table β} {name : Text}

/-- Related tables have a name both or neither. -/
theorem Related.get?_cases (h : Related R t u) (name : Text) :
    t.get? name = none ∧ u.get? name = none ∨
      ∃ a b, t.get? name = some a ∧ u.get? name = some b ∧ R name a b := by
  have hname := h name
  generalize t.get? name = x, u.get? name = y at hname
  cases hname with
  | none => exact Or.inl ⟨rfl, rfl⟩
  | some hab => exact Or.inr ⟨_, _, rfl, rfl, hab⟩

/-- A name that is not in a table is not in a related one. -/
theorem Related.get?_eq_none (h : Related R t u) (hget : t.get? name = none) :
    u.get? name = none := by
  rcases h.get?_cases name with ⟨-, hget'⟩ | ⟨a, b, hsome, -, -⟩
  · exact hget'
  · exact absurd (hget.symm.trans hsome) (Option.some_ne_none a).symm

/-- A name that is in a table is in a related one. -/
theorem Related.exists_get? (h : Related R t u) {a : α} (hget : t.get? name = some a) :
    ∃ b, u.get? name = some b ∧ R name a b := by
  rcases h.get?_cases name with ⟨hnone, -⟩ | ⟨a', b, hsome, hb, hab⟩
  · exact absurd (hget.symm.trans hnone) (Option.some_ne_none a)
  · obtain rfl := Option.some.inj (hget.symm.trans hsome)
    exact ⟨b, hb, hab⟩

/-- Relation of tables goes both ways. -/
theorem Related.symm (h : Related R t u) : Related (fun name b a => R name a b) u t := by
  intro name
  rcases h.get?_cases name with ⟨hget, hget'⟩ | ⟨a, b, hget, hget', hab⟩
  · rw [hget, hget']
    exact Option.Rel.none
  · rw [hget, hget']
    exact Option.Rel.some hab

/-- Tables that are related are so by anything that follows. -/
theorem Related.mono {S : Text → α → β → Prop} (h : Related R t u)
    (hmono : ∀ name a b, R name a b → S name a b) : Related S t u := by
  intro name
  rcases h.get?_cases name with ⟨hget, hget'⟩ | ⟨a, b, hget, hget', hab⟩
  · rw [hget, hget']
    exact Option.Rel.none
  · rw [hget, hget']
    exact Option.Rel.some (hmono name a b hab)

end Related

/-! ### Reading the values -/

/-- Two steps that succeed together succeed one after the other. -/
theorem exists_of_bind_eq_ok {ε β γ : Type} {first : Except ε β} {next : β → Except ε γ} {c : γ}
    (h : first >>= next = .ok c) : ∃ b, first = .ok b ∧ next b = .ok c := by
  cases first with
  | error e => cases h
  | ok b => exact ⟨b, rfl, h⟩

section Reading

variable {β ε : Type} {read : Text → α → Except ε β}

/-- The first entry is read before the others. -/
theorem readEntries_cons (name : Text) (a : α) (rest : List (Text × α)) :
    readEntries read ((name, a) :: rest) =
      read name a >>= fun b =>
        readEntries read rest >>= fun entries => pure ((name, b) :: entries) := by
  rw [readEntries]
  cases read name a with
  | error e => rfl
  | ok b => cases readEntries read rest <;> rfl

/-- A table is read to another if its entries are. -/
theorem traverse_eq_ok_iff {t : Table α} {u : Table β} :
    t.traverse read = .ok u ↔ readEntries read t.entries = .ok u.entries := by
  unfold traverse
  split
  · rename_i e he
    refine ⟨fun h => (by cases h), fun h => ?_⟩
    cases he.symm.trans h
  · rename_i entries hentries
    refine ⟨fun h => ?_, fun h => ?_⟩
    · rw [← Except.ok.inj h]
      exact hentries
    · exact congrArg Except.ok (ext_entries (Except.ok.inj (hentries.symm.trans h)))

/-- A table is refused if its entries are. -/
theorem traverse_eq_error_iff {t : Table α} {e : ε} :
    t.traverse read = .error e ↔ readEntries read t.entries = .error e := by
  unfold traverse
  split
  · rename_i e' he
    refine ⟨fun h => ?_, fun h => ?_⟩
    · rw [← Except.error.inj h]
      exact he
    · rw [Except.error.inj (he.symm.trans h)]
  · rename_i entries hentries
    refine ⟨fun h => (by cases h), fun h => ?_⟩
    cases hentries.symm.trans h

/-- **Tables are read alike** if their entries are. -/
theorem traverse_congr {γ : Type} {read' : Text → γ → Except ε β} {t : Table α} {u : Table γ}
    (h : readEntries read t.entries = readEntries read' u.entries) :
    t.traverse read = u.traverse read' := by
  cases hread : u.traverse read' with
  | error e =>
    rw [traverse_eq_error_iff, h]
    exact traverse_eq_error_iff.1 hread
  | ok v =>
    rw [traverse_eq_ok_iff, h]
    exact traverse_eq_ok_iff.1 hread

/-- What is read under a name was read from the value of that name. -/
theorem exists_of_readEntries {entries : List (Text × α)} {out : List (Text × β)}
    (h : readEntries read entries = .ok out) :
    ∀ entry ∈ out, ∃ a, read entry.1 a = .ok entry.2 := by
  induction entries generalizing out with
  | nil =>
    obtain rfl := Except.ok.inj h
    simp
  | cons entry rest ih =>
    obtain ⟨name, a⟩ := entry
    rw [readEntries_cons] at h
    obtain ⟨b, hb, h⟩ := exists_of_bind_eq_ok h
    obtain ⟨others, hothers, h⟩ := exists_of_bind_eq_ok h
    obtain rfl := Except.ok.inj h
    exact List.forall_mem_cons.2 ⟨⟨a, hb⟩, ih hothers⟩

/-- What is read under a name is read from the value of that name. -/
theorem lookup?_readEntries {entries : List (Text × α)} {out : List (Text × β)}
    (h : readEntries read entries = .ok out) (name : Text) :
    Option.Rel (fun a b => read name a = .ok b) (lookup? name entries) (lookup? name out) := by
  induction entries generalizing out with
  | nil =>
    obtain rfl := Except.ok.inj h
    exact Option.Rel.none
  | cons entry rest ih =>
    obtain ⟨k, a⟩ := entry
    rw [readEntries_cons] at h
    obtain ⟨b, hb, h⟩ := exists_of_bind_eq_ok h
    obtain ⟨others, hothers, h⟩ := exists_of_bind_eq_ok h
    obtain rfl := Except.ok.inj h
    unfold lookup?
    by_cases hk : k = name
    · rw [if_pos hk, if_pos hk]
      exact Option.Rel.some (hk ▸ hb)
    · rw [if_neg hk, if_neg hk]
      exact ih hothers

/-- **A table that is read** is related to the one that it is read from. -/
theorem related_of_traverse {t : Table α} {u : Table β} (h : t.traverse read = .ok u) :
    Related (fun name a b => read name a = .ok b) t u :=
  fun name => lookup?_readEntries (traverse_eq_ok_iff.1 h) name

/-- **Entries that are written and read back one by one** are read back together. -/
theorem readEntries_map {write : Text → β → α} {entries : List (Text × β)}
    (h : ∀ entry ∈ entries, read entry.1 (write entry.1 entry.2) = .ok entry.2) :
    readEntries read (entries.map fun entry => (entry.1, write entry.1 entry.2)) = .ok entries := by
  induction entries with
  | nil => rfl
  | cons entry rest ih =>
    obtain ⟨hentry, hrest⟩ := List.forall_mem_cons.1 h
    rw [List.map_cons, readEntries_cons, hentry, ih hrest]
    rfl

end Reading

end Table
end ApiGuide
