/-
# What a document can do without

Null is as good as an absent member, and a member that is not known might as well be
absent. Cleaning a document by its shape takes away both (`clean`):

| shape | null becomes | anything else of the kind |
| --- | --- | --- |
| `text`, `bool` | the empty text, false | stays |
| `items s` | the empty array | has its items cleaned, in order |
| `table s` | the empty object | has its members cleaned, in order |
| `record fields` | the empty object | keeps the named members that are not null, cleaned |

A value of another kind than its shape asks for stays as it is. What is left holds no null
and no member without a meaning (`Shape.isClean_clean`), and reading it ends as before, with
the same catalog or with the same violation at the same place (`ofJson_clean`). Each reader
does so for its own shape: it finds in the cleaned members what it finds in all of them
(`ReadsCleaned.field`).
-/

import ApiGuide.Proofs.Catalog.Shape

namespace ApiGuide
namespace Catalog

namespace Shape

/-! ### Cleaning -/

/-- A value, with another one in the place of null. -/
def nullAs (instead : Json) : Json → Json
  | .null => instead
  | value => value

mutual

/-- A value without what has no meaning in it. -/
def clean : Shape → Json → Json
  | .text, value => nullAs (.string []) value
  | .bool, value => nullAs (.bool false) value
  | .items shape, value =>
    match value with
    | .null => .array []
    | .array list => .array (list.map fun item => clean shape item)
    | value => value
  | .table shape, value =>
    match value with
    | .null => .object []
    | .object entries =>
      .object ((Json.members entries).filterMap fun _ member => some (clean shape member)).entries
    | value => value
  | .record fields, value =>
    match value with
    | .null => .object []
    | .object entries =>
      .object ((Json.members entries).filterMap fun name member =>
        cleanMember fields name member).entries
    | value => value

/-- A member of a record without what has no meaning in it, if it has a meaning itself. -/
def cleanMember : List (Text × Shape) → Text → Json → Option Json
  | [], _, _ => none
  | (known, shape) :: rest, name, value =>
    if known = name then if value.kind = .null then none else some (clean shape value)
    else cleanMember rest name value

end

mutual

/-- There is no null in a value, and no member that its shape does not name. -/
def IsClean : Shape → Json → Prop
  | .text, value => value.kind ≠ .null
  | .bool, value => value.kind ≠ .null
  | .items shape, value => value.kind ≠ .null ∧ ∀ item ∈ itemsOf value, IsClean shape item
  | .table shape, value =>
    value.kind ≠ .null ∧ ∀ entry ∈ (membersOf value).entries, IsClean shape entry.2
  | .record fields, value =>
    value.kind ≠ .null ∧ ∀ entry ∈ (membersOf value).entries, IsCleanMember fields entry.1 entry.2

/-- A member is named, and there is no null in it. -/
def IsCleanMember : List (Text × Shape) → Text → Json → Prop
  | [], _, _ => False
  | (known, shape) :: rest, name, value =>
    if known = name then IsClean shape value else IsCleanMember rest name value

end

/-- Nothing is cleaned to null. -/
theorem kind_clean_ne_null (shape : Shape) (value : Json) : (clean shape value).kind ≠ .null := by
  cases shape <;> cases value <;> simp [clean, nullAs, Json.kind]

/-- The members of an object that is made of a table are those of the table. -/
theorem membersOf_entries (t : Table Json) : membersOf (.object t.entries) = t :=
  Table.ofList_entries t

mutual

/-- **What is left is clean.** -/
theorem isClean_clean : ∀ (shape : Shape) (value : Json), IsClean shape (clean shape value)
  | .text, value => kind_clean_ne_null .text value
  | .bool, value => kind_clean_ne_null .bool value
  | .items shape, value => by
    refine ⟨kind_clean_ne_null (.items shape) value, ?_⟩
    cases value with
    | array list =>
      intro item hitem
      obtain ⟨raw, -, rfl⟩ := List.mem_map.1 hitem
      exact isClean_clean shape raw
    | _ => exact fun item hitem => absurd hitem List.not_mem_nil
  | .table shape, value => by
    refine ⟨kind_clean_ne_null (.table shape) value, ?_⟩
    cases value with
    | object entries =>
      rw [clean, membersOf_entries]
      intro entry hentry
      obtain ⟨raw, -, hclean⟩ := Table.mem_entries_filterMap.1 hentry
      rw [← Option.some.inj hclean]
      exact isClean_clean shape raw
    | _ => exact fun entry hentry => absurd hentry List.not_mem_nil
  | .record fields, value => by
    refine ⟨kind_clean_ne_null (.record fields) value, ?_⟩
    cases value with
    | object entries =>
      rw [clean, membersOf_entries]
      intro entry hentry
      obtain ⟨raw, -, hclean⟩ := Table.mem_entries_filterMap.1 hentry
      exact isCleanMember_of_cleanMember fields hclean
    | _ => exact fun entry hentry => absurd hentry List.not_mem_nil

/-- A member that is left is named, and clean. -/
theorem isCleanMember_of_cleanMember {name : Text} {value cleaned : Json} :
    ∀ fields : List (Text × Shape), cleanMember fields name value = some cleaned →
      IsCleanMember fields name cleaned
  | [], h => by cases h
  | (known, shape) :: rest, h => by
    rw [cleanMember] at h
    rw [IsCleanMember]
    split at h
    · rw [if_pos ‹_›]
      split at h
      · cases h
      · rw [← Option.some.inj h]
        exact isClean_clean shape value
    · rw [if_neg ‹_›]
      exact isCleanMember_of_cleanMember rest h

end

/-- A member that is named is left, cleaned, unless it is null. -/
theorem cleanMember_of_lookup? {fields : List (Text × Shape)} {name : Text} {shape : Shape}
    (h : Table.lookup? name fields = some shape) (value : Json) :
    cleanMember fields name value =
      if value.kind = .null then none else some (clean shape value) := by
  induction fields with
  | nil => cases h
  | cons entry rest ih =>
    obtain ⟨known, shape'⟩ := entry
    unfold Table.lookup? at h
    rw [cleanMember]
    split at h
    · obtain rfl := Option.some.inj h
      exact if_pos ‹_›
    · rw [if_neg ‹_›]
      exact ih h

end Shape

/-! ### Reading what is left -/

/-- A reader reads a value that is cleaned by a shape as it reads the value. -/
def ReadsCleaned {α : Type} (shape : Shape) (read : Place → Json → Except Violation α) : Prop :=
  ∀ (place : Place) (value : Json), read place (shape.clean value) = read place value

section Readers

variable {α : Type} {shape : Shape} {fields : List (Text × Shape)}

/-- A string is read as what it is cleaned to. -/
theorem readsCleaned_text : ReadsCleaned .text readText := by
  intro place value
  cases value <;> rfl

/-- A truth value is read as what it is cleaned to. -/
theorem readsCleaned_bool : ReadsCleaned .bool readBool := by
  intro place value
  cases value <;> rfl

/-! #### Tables -/

/-- Entries are read alike if each value is read as what it is mapped to. -/
theorem readEntries_filterMap_some {read : Text → Json → Except Violation α} {f : Json → Json}
    (h : ∀ name value, read name (f value) = read name value) (entries : List (Text × Json)) :
    Table.readEntries read
        (entries.filterMap fun entry => (some (f entry.2)).map (Prod.mk entry.1)) =
      Table.readEntries read entries := by
  induction entries with
  | nil => rfl
  | cons entry rest ih =>
    obtain ⟨name, value⟩ := entry
    rw [List.filterMap_cons, Option.map_some]
    simp only
    rw [Table.readEntries_cons, Table.readEntries_cons, h, ih]

/-- **A table is read member by member.** -/
theorem ReadsCleaned.table {read : Place → Json → Except Violation α}
    (h : ReadsCleaned shape read) : ReadsCleaned (.table shape) (readTable read) := by
  intro place value
  cases value with
  | object entries =>
    have hmembers : readMembers place ((Shape.table shape).clean (.object entries)) =
        .ok ((Json.members entries).filterMap fun _ member => some (shape.clean member)) := by
      rw [Shape.clean]
      exact congrArg Except.ok (Table.ofList_entries _)
    unfold readTable
    rw [hmembers]
    exact Table.traverse_congr
      (readEntries_filterMap_some (fun name value => h (place.member name) value) _)
  | _ => rfl

/-! #### Arrays -/

/-- Bases are read as what they are cleaned to, null or not. -/
theorem readBasesFrom_map_clean (place : Place) (index : Nat) (items : List Json) :
    readBasesFrom place index (items.map fun item => Shape.text.clean item) =
      readBasesFrom place index items := by
  induction items generalizing index with
  | nil => rfl
  | cons item rest ih =>
    rw [List.map_cons, readBasesFrom, readBasesFrom, readsCleaned_text, ih]

/-- **Base classes are read item by item**: one that is null has no name, and keeps its
index. -/
theorem readsCleaned_bases : ReadsCleaned (.items .text) readBases := by
  intro place value
  cases value with
  | array items =>
    show (readBasesFrom place 0 (items.map fun item => Shape.text.clean item) >>= _) =
      (readBasesFrom place 0 items >>= _)
    rw [readBasesFrom_map_clean]
  | _ => rfl

/-! #### Records -/

/-- **A member that is named is read from what is left** as from all members: if it is not
left, it is absent or null, which is the same. -/
theorem ReadsCleaned.field {read : Place → Json → Except Violation α} (h : ReadsCleaned shape read)
    {name : Text} (hname : Table.lookup? name fields = some shape) (place : Place)
    (members : Table Json) :
    read place (field (members.filterMap (Shape.cleanMember fields)) name) =
      read place (field members name) := by
  unfold Catalog.field
  rw [Table.get?_filterMap]
  cases hget : members.get? name with
  | none => rfl
  | some value =>
    rw [Option.bind_some, Shape.cleanMember_of_lookup? hname]
    split
    · rename_i hnull
      cases value <;> first | rfl | cases hnull
    · exact h place value

/-- **A record is read from its members**, so from those that are left. -/
theorem ReadsCleaned.record {next : Place → Table Json → Except Violation α}
    (h : ∀ place members,
      next place (members.filterMap (Shape.cleanMember fields)) = next place members) :
    ReadsCleaned (.record fields) fun place value => readMembers place value >>= next place := by
  intro place value
  cases value with
  | object entries =>
    have hmembers : readMembers place ((Shape.record fields).clean (.object entries)) =
        .ok ((Json.members entries).filterMap (Shape.cleanMember fields)) := by
      rw [Shape.clean]
      exact congrArg Except.ok (Table.ofList_entries _)
    simp only [hmembers]
    exact h place (Json.members entries)
  | _ => rfl

/-- A method is read as what it is cleaned to. -/
theorem readsCleaned_method : ReadsCleaned methodShape readMethod := by
  unfold methodShape readMethod
  refine ReadsCleaned.record fun place members => ?_
  rw [readsCleaned_text.field rfl, readsCleaned_text.field rfl]

/-- A property is read as what it is cleaned to. -/
theorem readsCleaned_property : ReadsCleaned propertyShape readProperty := by
  unfold propertyShape readProperty
  refine ReadsCleaned.record fun place members => ?_
  rw [readsCleaned_text.field rfl, readsCleaned_bool.field rfl, readsCleaned_bool.field rfl]

/-- A class is read as what it is cleaned to. -/
theorem readsCleaned_class : ReadsCleaned classShape readClass := by
  unfold classShape readClass
  refine ReadsCleaned.record fun place members => ?_
  rw [readsCleaned_method.table.field rfl, readsCleaned_property.table.field rfl,
    readsCleaned_bases.field rfl, readsCleaned_text.field rfl]

end Readers

/-! ### Documents -/

/-- A document without what has no meaning in it: of the root only the classes are left. -/
def clean : Json → Json
  | .object entries =>
    match (Json.members entries).get? "classes" with
    | some value => .object [("classes", catalogShape.clean value)]
    | none => .object []
  | document => document

/-- **A cleaned document reads as before**: with the same catalog, or with the same
violation. Of a document with classes nothing is left but these, without a null or a member
that is not known. -/
theorem ofJson_clean (document : Json) :
    ofJson (clean document) = ofJson document ∧
      ∀ entries value, document = .object entries →
        (Json.members entries).get? "classes" = some value →
          ∃ classes, clean document = .object [("classes", classes)] ∧
            catalogShape.IsClean classes := by
  constructor
  · cases document with
    | object entries =>
      unfold clean
      simp only
      cases hget : (Json.members entries).get? "classes" with
      | none => simp only [ofJson, hget]; rfl
      | some value =>
        simp only [ofJson, hget]
        exact readsCleaned_class.table classesPlace value
    | _ => rfl
  · rintro entries value rfl hget
    refine ⟨catalogShape.clean value, ?_, Shape.isClean_clean catalogShape value⟩
    unfold clean
    simp only [hget]

/-- A document with a null in the place of a class, a method, a table and a base class, and
with members that are not known. One of the base classes is no text. -/
def dusty : Json :=
  .object [("version", .integer 2), ("classes", .object
    [("Box", .null),
     ("Actor", .object
      [("name", .string "Actor"), ("properties", .null),
       ("methods", .object
         [("move", .object [("docstring", .null), ("since", .integer 1)]), ("stop", .null)]),
       ("base_classes", .array [.null, .bool true])])])]

/-- What is left of it has the same fault, under the same index. -/
theorem ofJson_clean_dusty :
    clean dusty = .object [("classes", .object
      [("Box", .object []),
       ("Actor", .object
        [("methods", .object [("move", .object []), ("stop", .object [])]),
         ("base_classes", .array [.string "", .bool true])])])] ∧
    (∃ classes, clean dusty = .object [("classes", classes)] ∧ catalogShape.IsClean classes) ∧
    ofJson (clean dusty) = ofJson dusty ∧
    ofJson dusty = .error (.wrongKind
      [.member "classes", .member "Actor", .member "base_classes", .item 1] .string .bool) := by
  obtain ⟨hread, hclean⟩ := ofJson_clean dusty
  exact ⟨rfl, hclean _ _ rfl rfl, hread, rfl⟩

end Catalog
end ApiGuide
