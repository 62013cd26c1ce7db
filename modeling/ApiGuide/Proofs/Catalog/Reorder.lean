/-
# Documents in another order

Two documents are the same up to order if their classes, the methods of a class and its
properties are the same by name, whatever the order in which an object lists them
(`SameDocument`). All else in them is equal.

| values | the same up to order if |
| --- | --- |
| documents | the values of `classes` are; the other members are equal |
| objects of classes | the classes are, name by name |
| classes | `methods` and `properties` are; the other members are equal |
| objects of methods or properties | the members are equal, name by name |

The catalogs that are read from such documents have the same classes by name
(`same_of_ofJson`), and each has the same methods and properties by name.
-/

import ApiGuide.Proofs.Catalog.RoundTrip
import Mathlib.Data.List.Forall2

namespace ApiGuide

/-- Two classes are the same up to the order of their methods and properties. -/
structure Class.Same (c c' : Class) : Prop where
  docstring : c.docstring = c'.docstring
  bases : c.bases = c'.bases
  methods : Table.Related (fun _ => Eq) c.methods c'.methods
  properties : Table.Related (fun _ => Eq) c.properties c'.properties

namespace Catalog

/-- Two objects with related members, or two equal values that are no objects. -/
inductive SameMembers (R : Text → Json → Json → Prop) : Json → Json → Prop
  | object {entries entries' : List (Text × Json)}
      (members : Table.Related R (Json.members entries) (Json.members entries')) :
      SameMembers R (.object entries) (.object entries')
  | other {value : Json} (kind : value.kind ≠ .object) : SameMembers R value value

/-- The methods or the properties of a class, in any order. -/
def SameTable : Json → Json → Prop := SameMembers fun _ => Eq

/-- Classes with the same methods and properties. -/
def SameClass : Json → Json → Prop :=
  SameMembers fun name => if name = "methods" ∨ name = "properties" then SameTable else Eq

/-- The classes of a document, in any order. -/
def SameClasses : Json → Json → Prop := SameMembers fun _ => SameClass

/-- Documents with the same classes. -/
def SameDocument : Json → Json → Prop :=
  SameMembers fun name => if name = "classes" then SameClasses else Eq

variable {place : Place} {value value' : Json} {R : Text → Json → Json → Prop}

/-- Two values without members have the same ones. -/
theorem sameMembers_null : SameMembers R .null .null := .other (by decide)

/-- **Objects are the same up to order** if their members can be put in an order in which
they are related one by one. -/
theorem sameMembers_of_perm {entries middle entries' : List (Text × Json)}
    (hnodup : (entries.map Prod.fst).Nodup) (hperm : entries.Perm middle)
    (h : List.Forall₂ (fun a b => a.1 = b.1 ∧ R a.1 a.2 b.2) middle entries') :
    SameMembers R (.object entries) (.object entries') := by
  have hnames : middle.map Prod.fst = entries'.map Prod.fst := by
    rw [← List.forall₂_eq_eq_eq, List.forall₂_map_left_iff, List.forall₂_map_right_iff]
    exact h.imp fun a b hab => hab.1
  have hnodup' : (entries'.map Prod.fst).Nodup :=
    hnames ▸ (hperm.map Prod.fst).nodup_iff.1 hnodup
  refine .object fun name => ?_
  unfold Json.members Table.get?
  rw [Table.entries_ofList hnodup, Table.entries_ofList hnodup', Table.lookup?_perm hnodup hperm]
  clear hnodup hperm hnodup' hnames
  induction h with
  | nil => exact Option.Rel.none
  | @cons a b _ _ hab _ ih =>
    obtain ⟨k, v⟩ := a
    obtain ⟨k', v'⟩ := b
    obtain ⟨rfl, hR⟩ : k = k' ∧ R k v v' := hab
    unfold Table.lookup?
    by_cases hk : k = name
    · rw [if_pos hk, if_pos hk]
      exact Option.Rel.some (hk ▸ hR)
    · rw [if_neg hk, if_neg hk]
      exact ih

/-! ### Reading -/

/-- **Related members are read from objects of related members.** -/
theorem related_readMembers {members members' : Table Json} (h : SameMembers R value value')
    (hread : readMembers place value = .ok members)
    (hread' : readMembers place value' = .ok members') : Table.Related R members members' := by
  cases h with
  | object hmembers =>
    obtain rfl := Except.ok.inj hread
    obtain rfl := Except.ok.inj hread'
    exact hmembers
  | other hkind =>
    cases value with
    | null =>
      obtain rfl := Except.ok.inj hread
      obtain rfl := Except.ok.inj hread'
      exact fun name => Option.Rel.none
    | object entries => exact absurd rfl hkind
    | _ => cases hread

/-- Members that are absent are null in both. -/
theorem related_field {members members' : Table Json} (h : Table.Related R members members')
    (name : Text) (hnull : R name .null .null) :
    R name (field members name) (field members' name) := by
  unfold field
  rcases h.get?_cases name with ⟨hget, hget'⟩ | ⟨v, v', hget, hget', hrelated⟩
  · rw [hget, hget']
    exact hnull
  · rw [hget, hget']
    exact hrelated

/-- **Related tables are read from objects of related members**, if related values are
read from related members. -/
theorem related_readTable {α : Type} (read : Place → Json → Except Violation α)
    {Same : α → α → Prop} {t t' : Table α} (h : SameMembers R value value')
    (hsame : ∀ {name place value value' a a'}, R name value value' → read place value = .ok a →
      read place value' = .ok a' → Same a a')
    (hread : readTable read place value = .ok t) (hread' : readTable read place value' = .ok t') :
    Table.Related (fun _ => Same) t t' := by
  unfold readTable at hread hread'
  obtain ⟨members, hmembers, hread⟩ := Table.exists_of_bind_eq_ok hread
  obtain ⟨members', hmembers', hread'⟩ := Table.exists_of_bind_eq_ok hread'
  intro name
  -- A name is read on both sides or on neither.
  rcases (related_readMembers h hmembers hmembers').get?_cases name with
    ⟨hget, hget'⟩ | ⟨v, v', hget, hget', hrelated⟩
  · rw [(Table.related_of_traverse hread).get?_eq_none hget,
      (Table.related_of_traverse hread').get?_eq_none hget']
    exact Option.Rel.none
  · obtain ⟨a, ht, ha⟩ := (Table.related_of_traverse hread).exists_get? hget
    obtain ⟨a', ht', ha'⟩ := (Table.related_of_traverse hread').exists_get? hget'
    rw [ht, ht']
    exact Option.Rel.some (hsame hrelated ha ha')

/-- From equal values equal ones are read. -/
theorem eq_of_read {α : Type} {read : Place → Json → Except Violation α} {a a' : α}
    (h : value = value') (hread : read place value = .ok a) (hread' : read place value' = .ok a') :
    a = a' := by
  subst h
  exact Except.ok.inj (hread.symm.trans hread')

/-- **From classes that are the same up to order** the same class is read. -/
theorem same_of_readClass {c c' : Class} (h : SameClass value value')
    (hread : readClass place value = .ok c) (hread' : readClass place value' = .ok c') :
    c.Same c' := by
  obtain ⟨members, hmembers, hmethods, hproperties, hbases, hdocstring⟩ := exists_of_readClass hread
  obtain ⟨members', hmembers', hmethods', hproperties', hbases', hdocstring'⟩ :=
    exists_of_readClass hread'
  have hrelated := related_readMembers h hmembers hmembers'
  refine ⟨?_, ?_, ?_, ?_⟩
  · exact eq_of_read (related_field hrelated "docstring" rfl) hdocstring hdocstring'
  · exact eq_of_read (related_field hrelated "base_classes" rfl) hbases hbases'
  · exact related_readTable readMethod (related_field hrelated "methods" sameMembers_null)
      eq_of_read hmethods hmethods'
  · exact related_readTable readProperty (related_field hrelated "properties" sameMembers_null)
      eq_of_read hproperties hproperties'

/-- **From documents that are the same up to order** the same classes are read. -/
theorem same_of_ofJson {document document' : Json} {catalog catalog' : Catalog}
    (h : SameDocument document document') (hread : ofJson document = .ok catalog)
    (hread' : ofJson document' = .ok catalog') :
    Table.Related (fun _ => Class.Same) catalog catalog' := by
  obtain ⟨entries, value, rfl, hget, hread⟩ := exists_of_ofJson hread
  obtain ⟨entries', value', rfl, hget', hread'⟩ := exists_of_ofJson hread'
  cases h with
  | other hkind => exact absurd rfl hkind
  | object hmembers =>
    rcases hmembers.get?_cases "classes" with ⟨hnone, -⟩ | ⟨v, v', hv, hv', hsame⟩
    · exact absurd (hget.symm.trans hnone) (Option.some_ne_none _)
    · obtain rfl := Option.some.inj (hv.symm.trans hget)
      obtain rfl := Option.some.inj (hv'.symm.trans hget')
      exact related_readTable readClass hsame same_of_readClass hread hread'

end Catalog
end ApiGuide
