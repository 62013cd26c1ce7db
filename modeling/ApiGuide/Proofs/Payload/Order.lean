/-
# The order of completion lists

A completion list is in strictly increasing order of the texts that it is sorted by, so
it is determined by the items in it (`sorted_eq_of_mem_iff`). The rank stands before the
label: items of one kind are in the order of their labels (`sortText_lt_iff`), and all
methods come before all properties, of the same names or not (`sorted_append`).

| context | list |
| --- | --- |
| behind a known receiver and a dot | its methods by name, then its properties by name |
| behind another receiver and a dot | nothing |
| any other | the classes by name |

So two documents that are the same up to order give the same lists, and the lengths of the
lists are those that the counts of the catalog add up (`completions_canonical`).

`Mathlib.Algebra.GroupWithZero.Nat` is imported for the zero that lengths are summed from: it
is the one wherever more of Mathlib is there.
-/

import ApiGuide.Payload.Completion
import ApiGuide.Proofs.Catalog.Reorder
import ApiGuide.Proofs.Text.Order
import Mathlib.Algebra.GroupWithZero.Nat
import Mathlib.Data.List.Nodup

namespace ApiGuide
namespace Payload

open CompletionItem (sortText)

variable {items items' : List CompletionItem} {kind : ItemKind}

/-! ### Sorted lists -/

/-- Items in strictly increasing order of the texts that they are sorted by. -/
def Increasing (items : List CompletionItem) : Prop :=
  items.Pairwise fun a b => a.sortText < b.sortText

/-- Sorting keeps the items. -/
theorem sorted_perm (items : List CompletionItem) : (sorted items).Perm items :=
  List.mergeSort_perm _ _

/-- **Sorting is strict** where no two items are sorted by the same text. -/
theorem increasing_sorted (h : (items.map sortText).Nodup) : Increasing (sorted items) := by
  have hsorted : (sorted items).Pairwise fun a b => a.sortText.atMost b.sortText = true :=
    List.pairwise_mergeSort (fun a b c => Text.atMost_trans a.sortText b.sortText c.sortText)
      (fun a b => Text.atMost_total a.sortText b.sortText) items
  have hne : (sorted items).Pairwise fun a b => a.sortText ≠ b.sortText :=
    List.pairwise_map.1 (((sorted_perm items).map sortText).nodup_iff.2 h)
  exact hsorted.imp₂ (fun _ _ => Text.lt_of_atMost_of_ne) hne

/-- **The order is determined by the items.** -/
theorem Increasing.eq_of_perm (h : Increasing items) (h' : Increasing items')
    (hperm : items.Perm items') : items = items' := by
  refine hperm.eq_of_pairwise (fun a b _ _ hlt hgt => ?_) h h'
  exact absurd (List.lt_trans hlt hgt) (List.lt_irrefl _)

/-- **A sorted list is determined by its items.** -/
theorem sorted_eq_of_mem_iff (h : (items.map sortText).Nodup) (h' : (items'.map sortText).Nodup)
    (hmem : ∀ item, item ∈ items ↔ item ∈ items') : sorted items = sorted items' := by
  have hperm := (List.perm_ext_iff_of_nodup h.of_map h'.of_map).2 hmem
  exact (increasing_sorted h).eq_of_perm (increasing_sorted h')
    ((sorted_perm items).trans (hperm.trans (sorted_perm items').symm))

/-- Items of two ranks are sorted by different texts if those of each rank are. -/
theorem nodup_append (h : (items.map sortText).Nodup) (h' : (items'.map sortText).Nodup)
    (hlt : ∀ a ∈ items, ∀ b ∈ items', a.sortText < b.sortText) :
    ((items ++ items').map sortText).Nodup := by
  rw [List.map_append, List.nodup_append]
  refine ⟨h, h', fun s hs s' hs' => ?_⟩
  obtain ⟨a, ha, rfl⟩ := List.mem_map.1 hs
  obtain ⟨b, hb, rfl⟩ := List.mem_map.1 hs'
  exact fun heq => List.lt_irrefl _ (heq ▸ hlt a ha b hb)

/-- **What is smaller is listed before**: two lists, each in its order. -/
theorem sorted_append (h : (items.map sortText).Nodup) (h' : (items'.map sortText).Nodup)
    (hlt : ∀ a ∈ items, ∀ b ∈ items', a.sortText < b.sortText) :
    sorted (items ++ items') = sorted items ++ sorted items' := by
  refine (increasing_sorted (nodup_append h h' hlt)).eq_of_perm ?_
    ((sorted_perm _).trans ((sorted_perm items).append (sorted_perm items')).symm)
  refine List.pairwise_append.2 ⟨increasing_sorted h, increasing_sorted h', fun a ha b hb => ?_⟩
  exact hlt a ((sorted_perm items).mem_iff.1 ha) b ((sorted_perm items').mem_iff.1 hb)

/-! ### Items of one kind -/

/-- **Items of one kind** are in the order of their labels. -/
theorem sortText_lt_iff {a b : CompletionItem} (h : a.kind = b.kind) :
    a.sortText < b.sortText ↔ a.label < b.label := by
  unfold CompletionItem.sortText
  rw [h]
  exact Text.append_lt_append_iff _ _ _

/-- **Methods are listed before properties**, whatever their names. -/
theorem sortText_lt_of_kind {a b : CompletionItem} (ha : a.kind = .ofMethod)
    (hb : b.kind = .ofProperty) : a.sortText < b.sortText := by
  unfold CompletionItem.sortText
  rw [ha, hb]
  exact List.cons_lt_cons_iff.2 (Or.inl (by decide))

/-! ### The items of a table -/

section Table

variable {α β : Type} {item : Text → α → CompletionItem} {item' : Text → β → CompletionItem}

/-- Items of one kind that are labelled with a name. -/
structure Labelled (item : Text → α → CompletionItem) (kind : ItemKind) : Prop where
  label : ∀ name a, (item name a).label = name
  kind : ∀ name a, (item name a).kind = kind

/-- The item of a method has the name for its label. -/
theorem labelled_ofMethod : Labelled CompletionItem.ofMethod .ofMethod :=
  ⟨fun _ _ => rfl, fun _ _ => rfl⟩

/-- The item of a property has the name for its label. -/
theorem labelled_ofProperty : Labelled CompletionItem.ofProperty .ofProperty :=
  ⟨fun _ _ => rfl, fun _ _ => rfl⟩

/-- The item of a class has the name for its label. -/
theorem labelled_ofClass (apiName : Text) : Labelled (CompletionItem.ofClass apiName) .ofClass :=
  ⟨fun _ _ => rfl, fun _ _ => rfl⟩

/-- An item for every entry of a table. -/
def tableItems (item : Text → α → CompletionItem) (t : Table α) : List CompletionItem :=
  t.entries.map fun entry => item entry.1 entry.2

/-- The items of members are those of two tables. -/
theorem memberItems_eq (c : Class) : memberItems c =
    tableItems CompletionItem.ofMethod c.methods ++
      tableItems CompletionItem.ofProperty c.properties :=
  rfl

/-- An item of a table is that of an entry. -/
theorem mem_tableItems_iff {t : Table α} {i : CompletionItem} :
    i ∈ tableItems item t ↔ ∃ name a, t.get? name = some a ∧ item name a = i := by
  unfold tableItems
  rw [List.mem_map]
  constructor
  · rintro ⟨⟨name, a⟩, hentry, rfl⟩
    exact ⟨name, a, Table.mem_entries_iff.1 hentry, rfl⟩
  · rintro ⟨name, a, hget, rfl⟩
    exact ⟨(name, a), Table.mem_entries_iff.2 hget, rfl⟩

/-- The items of a table are of one kind. -/
theorem Labelled.kind_of_mem (h : Labelled item kind) {t : Table α} :
    ∀ i ∈ tableItems item t, i.kind = kind := by
  intro i hi
  obtain ⟨name, a, -, rfl⟩ := mem_tableItems_iff.1 hi
  exact h.kind name a

/-- **No two items of a table are sorted by the same text**, since no name is repeated. -/
theorem Labelled.nodup (h : Labelled item kind) (t : Table α) :
    ((tableItems item t).map sortText).Nodup := by
  have hsort : (tableItems item t).map sortText =
      (t.entries.map Prod.fst).map (kind.rank ++ ·) := by
    unfold tableItems
    rw [List.map_map, List.map_map]
    refine List.map_congr_left fun entry _ => ?_
    show (item entry.1 entry.2).kind.rank ++ (item entry.1 entry.2).label = kind.rank ++ entry.1
    rw [h.kind, h.label]
  rw [hsort]
  exact t.nodup.map fun _ _ => List.append_cancel_left

/-- **The items of a table** are listed in the order of their labels. -/
theorem Labelled.pairwise_label (h : Labelled item kind) (t : Table α) :
    (sorted (tableItems item t)).Pairwise fun a b => a.label < b.label := by
  have hkind : ∀ i ∈ sorted (tableItems item t), i.kind = kind := fun i hi =>
    h.kind_of_mem i ((sorted_perm _).mem_iff.1 hi)
  exact (increasing_sorted (h.nodup t)).imp_of_mem fun ha hb hlt =>
    (sortText_lt_iff ((hkind _ ha).trans (hkind _ hb).symm)).1 hlt

/-- Tables with the same names and the same items under them. -/
theorem mem_tableItems_of_related {t : Table α} {u : Table β}
    (h : t.Related (fun name a b => item name a = item' name b) u) {i : CompletionItem}
    (hi : i ∈ tableItems item t) : i ∈ tableItems item' u := by
  obtain ⟨name, a, ha, rfl⟩ := mem_tableItems_iff.1 hi
  obtain ⟨b, hb, hab⟩ := h.exists_get? ha
  exact mem_tableItems_iff.2 ⟨name, b, hb, hab.symm⟩

/-- Related tables have the same items if related entries do. -/
theorem mem_tableItems_congr {t : Table α} {u : Table β}
    (h : t.Related (fun name a b => item name a = item' name b) u) (i : CompletionItem) :
    i ∈ tableItems item t ↔ i ∈ tableItems item' u :=
  ⟨mem_tableItems_of_related h, mem_tableItems_of_related (h.symm.mono fun _ _ _ => Eq.symm)⟩

end Table

/-! ### Completion lists -/

variable {apiName : Text} {catalog : Catalog} {context : Context} {receiver : Text} {c : Class}

/-- **Methods come before properties**, whatever their names. -/
theorem sortText_lt_of_mem (c : Class) : ∀ a ∈ tableItems CompletionItem.ofMethod c.methods,
    ∀ b ∈ tableItems CompletionItem.ofProperty c.properties, a.sortText < b.sortText :=
  fun a ha b hb =>
    sortText_lt_of_kind (labelled_ofMethod.kind_of_mem a ha) (labelled_ofProperty.kind_of_mem b hb)

/-- No two members of a class are sorted by the same text. -/
theorem nodup_memberItems (c : Class) : ((memberItems c).map sortText).Nodup :=
  nodup_append (labelled_ofMethod.nodup _) (labelled_ofProperty.nodup _) (sortText_lt_of_mem c)

/-- **The members of a class** are listed as its methods and then its properties. -/
theorem sorted_memberItems (c : Class) : sorted (memberItems c) =
    sorted (tableItems CompletionItem.ofMethod c.methods) ++
      sorted (tableItems CompletionItem.ofProperty c.properties) :=
  sorted_append (labelled_ofMethod.nodup _) (labelled_ofProperty.nodup _) (sortText_lt_of_mem c)

/-- Behind a known receiver and a dot there are its members. -/
theorem completions_dot (h : catalog.get? receiver = some c) :
    completions apiName catalog (.dot receiver) = sorted (memberItems c) := by
  simp only [completions, h]

/-- Behind another receiver and a dot there is nothing. -/
theorem completions_dot_of_eq_none (h : catalog.get? receiver = none) :
    completions apiName catalog (.dot receiver) = [] := by
  simp only [completions, h]

/-- Where there is no dot there are the classes. -/
theorem completions_of_ne_dot (h : ∀ receiver, context ≠ .dot receiver) :
    completions apiName catalog context = sorted (classItems apiName catalog) := by
  cases context with
  | dot receiver => exact absurd rfl (h receiver)
  | _ => rfl

/-- **Every list is in strictly increasing order.** -/
theorem increasing_completions (apiName : Text) (catalog : Catalog) (context : Context) :
    Increasing (completions apiName catalog context) := by
  have hclasses : Increasing (sorted (classItems apiName catalog)) :=
    increasing_sorted ((labelled_ofClass apiName).nodup catalog)
  cases context with
  | dot receiver =>
    cases hget : catalog.get? receiver with
    | none =>
      rw [completions_dot_of_eq_none hget]
      exact List.Pairwise.nil
    | some c =>
      rw [completions_dot hget]
      exact increasing_sorted (nodup_memberItems c)
  | _ => exact hclasses

/-- Classes that are the same up to order have the same members. -/
theorem sorted_memberItems_of_same {c' : Class} (h : c.Same c') :
    sorted (memberItems c) = sorted (memberItems c') := by
  refine sorted_eq_of_mem_iff (nodup_memberItems c) (nodup_memberItems c') fun i => ?_
  rw [memberItems_eq, memberItems_eq, List.mem_append, List.mem_append]
  refine or_congr (mem_tableItems_congr (h.methods.mono fun name m m' hm => ?_) i)
    (mem_tableItems_congr (h.properties.mono fun name p p' hp => ?_) i)
  · rw [hm]
  · rw [hp]

/-- **Catalogs with the same classes** have the same lists. -/
theorem completions_eq_of_same {catalog' : Catalog}
    (h : Table.Related (fun _ => Class.Same) catalog catalog') (apiName : Text)
    (context : Context) :
    completions apiName catalog context = completions apiName catalog' context := by
  have hclasses : sorted (classItems apiName catalog) = sorted (classItems apiName catalog') := by
    have hlabelled := labelled_ofClass apiName
    refine sorted_eq_of_mem_iff (hlabelled.nodup catalog) (hlabelled.nodup catalog') fun i => ?_
    refine mem_tableItems_congr (h.mono fun name c c' hsame => ?_) i
    unfold CompletionItem.ofClass
    rw [hsame.docstring]
  cases context with
  | dot receiver =>
    rcases h.get?_cases receiver with ⟨hget, hget'⟩ | ⟨c, c', hget, hget', hsame⟩
    · rw [completions_dot_of_eq_none hget, completions_dot_of_eq_none hget']
    · rw [completions_dot hget, completions_dot hget', sorted_memberItems_of_same hsame]
  | _ => exact hclasses

/-- A table has as many items as entries. -/
theorem length_tableItems {α : Type} (item : Text → α → CompletionItem) (t : Table α) :
    (tableItems item t).length = t.size :=
  List.length_map _

/-- **A list of members is as long as the class is large.** -/
theorem length_completions_dot (h : catalog.get? receiver = some c) :
    (completions apiName catalog (.dot receiver)).length = c.methods.size + c.properties.size := by
  rw [completions_dot h, (sorted_perm _).length_eq, memberItems_eq, List.length_append,
    length_tableItems, length_tableItems]

/-- **The lists of members together** are as long as the counts say. -/
theorem sum_length_completions (apiName : Text) (catalog : Catalog) :
    (catalog.names.map fun name => (completions apiName catalog (.dot name)).length).sum =
      catalog.counts.methods + catalog.counts.properties := by
  have hlengths : (catalog.names.map fun name =>
      (completions apiName catalog (.dot name)).length) =
        catalog.values.map fun c => c.methods.size + c.properties.size := by
    unfold Table.names Table.values
    rw [List.map_map, List.map_map]
    exact List.map_congr_left fun entry hentry =>
      length_completions_dot (Table.mem_entries_iff.1 hentry)
  rw [hlengths]
  unfold Catalog.counts
  induction catalog.values with
  | nil => rfl
  | cons c rest ih =>
    rw [List.map_cons, List.sum_cons, ih]
    simp only [List.foldr_cons]
    omega

/-- **Completion lists are complete, strictly ordered and canonical.** Every list of a
catalog that was read is in strictly increasing order. Behind a known receiver and a dot
stand all its methods and then all its properties, each group once and by name; elsewhere
stand all classes, once and by name. A document that is the same up to the order of
classes, methods and properties gives the same lists. There are as many classes, and as
many members of all classes together, as the counts of the catalog say. -/
theorem completions_canonical {document : Json} (h : Catalog.ofJson document = .ok catalog)
    (apiName : Text) :
    (∀ context, (completions apiName catalog context).Pairwise fun a b =>
      a.sortText < b.sortText) ∧
    (∀ receiver c, catalog.get? receiver = some c → ∃ methods properties,
      completions apiName catalog (.dot receiver) = methods ++ properties ∧
      methods.Perm (c.methods.entries.map fun entry => .ofMethod entry.1 entry.2) ∧
      properties.Perm (c.properties.entries.map fun entry => .ofProperty entry.1 entry.2) ∧
      (methods.Pairwise fun a b => a.label < b.label) ∧
      (properties.Pairwise fun a b => a.label < b.label)) ∧
    (∀ context, (∀ receiver, context ≠ .dot receiver) →
      (completions apiName catalog context).Perm
        (catalog.entries.map fun entry => .ofClass apiName entry.1 entry.2) ∧
      ((completions apiName catalog context).Pairwise fun a b => a.label < b.label) ∧
      (completions apiName catalog context).length = catalog.counts.classes) ∧
    (∀ document' catalog', Catalog.SameDocument document document' →
      Catalog.ofJson document' = .ok catalog' →
      ∀ context, completions apiName catalog' context = completions apiName catalog context) ∧
    (catalog.names.map fun name => (completions apiName catalog (.dot name)).length).sum =
      catalog.counts.methods + catalog.counts.properties := by
  refine ⟨increasing_completions apiName catalog, fun receiver c hget => ?_,
    fun context hcontext => ?_, fun document' catalog' hsame h' context => ?_,
    sum_length_completions apiName catalog⟩
  · exact ⟨_, _, (completions_dot hget).trans (sorted_memberItems c), sorted_perm _, sorted_perm _,
      labelled_ofMethod.pairwise_label _, labelled_ofProperty.pairwise_label _⟩
  · rw [completions_of_ne_dot hcontext, (sorted_perm _).length_eq]
    exact ⟨sorted_perm _, (labelled_ofClass apiName).pairwise_label catalog,
      length_tableItems _ catalog⟩
  · exact (completions_eq_of_same (Catalog.same_of_ofJson hsame h h') apiName context).symm

/-- A class with some methods, and with a property. -/
def shelf (methods : List (Text × Json)) : Json :=
  .object [("methods", .object methods), ("properties", .object [("get", .object [])])]

/-- A document of two classes. -/
def shelfDocument : Json :=
  .object [("classes", .object
    [("Shelf", shelf [("put", .object []), ("get", .object [])]), ("Box", .object [])])]

/-- The same classes, and the same methods, in another order. -/
def turnedDocument : Json :=
  .object [("classes", .object
    [("Box", .object []), ("Shelf", shelf [("get", .object []), ("put", .object [])])])]

/-- The two documents are the same up to order. -/
theorem sameDocument_turnedDocument : Catalog.SameDocument shelfDocument turnedDocument := by
  have hmethods : Catalog.SameTable (.object [("put", .object []), ("get", .object [])])
      (.object [("get", .object []), ("put", .object [])]) :=
    Catalog.sameMembers_of_perm (by decide) (List.Perm.swap _ _ _)
      (.cons ⟨rfl, rfl⟩ (.cons ⟨rfl, rfl⟩ .nil))
  have hproperties : Catalog.SameTable (.object [("get", .object [])])
      (.object [("get", .object [])]) :=
    Catalog.sameMembers_of_perm (by decide) (List.Perm.refl _) (.cons ⟨rfl, rfl⟩ .nil)
  have hshelf : Catalog.SameClass (shelf [("put", .object []), ("get", .object [])])
      (shelf [("get", .object []), ("put", .object [])]) :=
    Catalog.sameMembers_of_perm (by decide) (List.Perm.refl _)
      (.cons ⟨rfl, hmethods⟩ (.cons ⟨rfl, hproperties⟩ .nil))
  have hbox : Catalog.SameClass (.object []) (.object []) :=
    Catalog.sameMembers_of_perm (by decide) (List.Perm.refl _) .nil
  refine Catalog.sameMembers_of_perm (by decide) (List.Perm.refl _) (.cons ⟨rfl, ?_⟩ .nil)
  exact Catalog.sameMembers_of_perm (by decide) (List.Perm.swap _ _ _)
    (.cons ⟨rfl, hbox⟩ (.cons ⟨rfl, hshelf⟩ .nil))

/-- Classes and methods in another order; a method and a property of one name. -/
theorem completions_canonical_shelf :
    ∃ catalog catalog', Catalog.ofJson shelfDocument = .ok catalog ∧
      Catalog.ofJson turnedDocument = .ok catalog' ∧
      completions "API" catalog (.dot "Shelf") = [.ofMethod "get" ⟨[], []⟩,
        .ofMethod "put" ⟨[], []⟩, .ofProperty "get" ⟨[], false, false⟩] ∧
      (∀ context, completions "API" catalog' context = completions "API" catalog context) ∧
      (completions "API" catalog .nothing).length = 2 := by
  obtain ⟨catalog, hread⟩ : ∃ catalog, Catalog.ofJson shelfDocument = .ok catalog := ⟨_, rfl⟩
  obtain ⟨catalog', hread'⟩ : ∃ catalog, Catalog.ofJson turnedDocument = .ok catalog := ⟨_, rfl⟩
  obtain ⟨hsorted, hmembers, hclasses, hcanonical, -⟩ := completions_canonical hread "API"
  refine ⟨catalog, catalog', hread, hread', ?_,
    hcanonical _ _ sameDocument_turnedDocument hread', ?_⟩
  · obtain ⟨methods, properties, hlist, hmethods, hproperties, -⟩ := hmembers "Shelf" _ (by
      rw [← Except.ok.inj hread]
      rfl)
    refine Increasing.eq_of_perm (hsorted _) ?_ ?_
    · show List.Pairwise _ _
      decide
    · rw [hlist]
      exact (hmethods.append hproperties).trans (List.Perm.swap _ _ _)
  · rw [(hclasses .nothing fun receiver h => by cases h).2.2, ← Except.ok.inj hread]
    rfl

end Payload
end ApiGuide
