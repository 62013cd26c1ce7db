/-
# Tables

A table maps names to values and remembers the order in which the names came
first. Inserting a name again replaces its value and keeps its place.
-/

import ApiGuide.Text.Basic

namespace ApiGuide

/-- A finite map from names to values, in the order of the first insertions. -/
structure Table (α : Type) where
  entries : List (Text × α)
  nodup : (entries.map Prod.fst).Nodup

namespace Table

variable {α β : Type}

/-- The table without names. -/
def empty : Table α := ⟨[], List.nodup_nil⟩

instance : Inhabited (Table α) := ⟨empty⟩

/-- Two tables with the same entries are equal. -/
theorem ext_entries {s t : Table α} (h : s.entries = t.entries) : s = t := by
  cases s; cases t; simp_all

/-- The names, in order. -/
def names (t : Table α) : List Text := t.entries.map Prod.fst

/-- The values, in order. -/
def values (t : Table α) : List α := t.entries.map Prod.snd

/-- The number of names. -/
def size (t : Table α) : Nat := t.entries.length

/-- The value of the first entry of a name in a list of entries. -/
def lookup? (name : Text) : List (Text × α) → Option α
  | [] => none
  | (k, a) :: rest => if k = name then some a else lookup? name rest

/-- The value of a name. -/
def get? (t : Table α) (name : Text) : Option α := lookup? name t.entries

/-- Sets the value of a name in a list of entries: in its place, or at the end. -/
def put (name : Text) (a : α) : List (Text × α) → List (Text × α)
  | [] => [(name, a)]
  | (k, b) :: rest => if k = name then (name, a) :: rest else (k, b) :: put name a rest

/-- Putting adds no name but the one that is put. -/
theorem mem_names_put {name x : Text} {a : α} {entries : List (Text × α)} :
    x ∈ (put name a entries).map Prod.fst ↔ x = name ∨ x ∈ entries.map Prod.fst := by
  induction entries with
  | nil => simp [put]
  | cons entry rest ih =>
    obtain ⟨k, b⟩ := entry
    unfold put
    split
    · rename_i h
      subst h
      simp
    · simp only [List.map_cons, List.mem_cons, ih]
      exact or_left_comm

/-- Names stay different where a value is put. -/
theorem nodup_names_put {name : Text} {a : α} {entries : List (Text × α)}
    (h : (entries.map Prod.fst).Nodup) : ((put name a entries).map Prod.fst).Nodup := by
  induction entries with
  | nil => simp [put]
  | cons entry rest ih =>
    obtain ⟨k, b⟩ := entry
    simp only [List.map_cons, List.nodup_cons] at h
    unfold put
    split
    · rename_i hk
      subst hk
      simpa using h
    · rename_i hk
      simp only [List.map_cons, List.nodup_cons, mem_names_put, not_or]
      exact ⟨⟨hk, h.1⟩, ih h.2⟩

/-- The table with a name set to a value. -/
def insert (t : Table α) (name : Text) (a : α) : Table α :=
  ⟨put name a t.entries, nodup_names_put t.nodup⟩

/-- The table of a list of entries: a name has the place of its first entry and
the value of its last one. -/
def ofList (entries : List (Text × α)) : Table α :=
  entries.foldl (fun t entry => t.insert entry.1 entry.2) empty

/-- The entries with each value replaced by what a reader makes of it. The first
refusal, in order, is the refusal of the whole. -/
def readEntries {ε : Type} (f : Text → α → Except ε β) :
    List (Text × α) → Except ε (List (Text × β))
  | [] => .ok []
  | (name, a) :: rest =>
    match f name a with
    | .error e => .error e
    | .ok b =>
      match readEntries f rest with
      | .error e => .error e
      | .ok entries => .ok ((name, b) :: entries)

/-- Reading the values keeps the names and their order. -/
theorem names_readEntries {ε : Type} {f : Text → α → Except ε β} {entries : List (Text × α)}
    {read : List (Text × β)} (h : readEntries f entries = .ok read) :
    read.map Prod.fst = entries.map Prod.fst := by
  induction entries generalizing read with
  | nil => simp only [readEntries, Except.ok.injEq] at h; simp [← h]
  | cons entry rest ih =>
    obtain ⟨name, a⟩ := entry
    unfold readEntries at h
    split at h
    · simp at h
    · split at h
      · simp at h
      · rename_i hr
        simp only [Except.ok.injEq] at h
        subst h
        simp [ih hr]

/-- The table with each value replaced by what a reader makes of its name and value. -/
def traverse {ε : Type} (t : Table α) (f : Text → α → Except ε β) : Except ε (Table β) :=
  match h : readEntries f t.entries with
  | .error e => .error e
  | .ok entries => .ok ⟨entries, by rw [names_readEntries h]; exact t.nodup⟩

end Table
end ApiGuide
