/-
# What is wrong with a document

The shape of a catalog document is a value, `catalogShape`. From it comes the list of
everything that is wrong with a document (`complaints`): the places are visited in
the order of the shape, a container before its contents, and of a value that is of
another kind than its shape asks for nothing more is said
(`Shape.complaints_of_kind_ne`). Null is of every kind.

| shape | kind | then |
| --- | --- | --- |
| `text`, `bool` | string, boolean | |
| `items s` | array | the items in order, each of the shape `s` |
| `table s` | object | the members in order, each of the shape `s` |
| `record fields` | object | the members that are named, in the order of the shape |

Reading a document ends with the first complaint, and gives a catalog if there is none
(`ofJson_ends_with_first_complaint`): each reader does so for its own shape, and reading
one place after another does so for the complaints about one place after the other
(`EndsWith.bind`).
-/

import ApiGuide.Catalog.Document
import ApiGuide.Proofs.Table

namespace ApiGuide
namespace Catalog

/-! ### Places as text -/

/-- Steps are shown one after the other. -/
theorem Place.tailText_append (place place' : Place) :
    tailText (place ++ place') = tailText place ++ tailText place' := by
  induction place with
  | nil => rfl
  | cons step rest ih =>
    cases step <;> simp only [List.cons_append, tailText, ih, List.append_assoc]

/-- Further steps are shown behind a place. -/
theorem Place.text_append {place : Place} (h : place ≠ []) (place' : Place) :
    text (place ++ place') = place.text ++ tailText place' := by
  obtain ⟨step, rest, rfl⟩ := List.exists_cons_of_ne_nil h
  cases step with
  | member name => simp only [List.cons_append, text, tailText_append, List.append_assoc]
  | item index => exact tailText_append (.item index :: rest) place'

/-- A member is shown behind a dot. -/
theorem Place.text_member {place : Place} (h : place ≠ []) (name : Text) :
    (place.member name).text = place.text ++ "." ++ name := by
  unfold Place.member
  rw [text_append h]
  simp only [tailText, List.append_nil, List.append_assoc]

/-- An item is shown in brackets. -/
theorem Place.text_item {place : Place} (h : place ≠ []) (index : Nat) :
    (place.item index).text = place.text ++ "[" ++ Text.ofNat index ++ "]" := by
  unfold Place.item
  rw [text_append h]
  simp only [tailText, List.append_nil, List.append_assoc]

/-- The place of a member is not the root. -/
theorem Place.member_ne_nil (place : Place) (name : Text) : place.member name ≠ [] :=
  List.append_ne_nil_of_right_ne_nil _ (List.cons_ne_nil _ _)

/-- The place of an item is not the root. -/
theorem Place.item_ne_nil (place : Place) (index : Nat) : place.item index ≠ [] :=
  List.append_ne_nil_of_right_ne_nil _ (List.cons_ne_nil _ _)

/-! ### Shapes -/

/-- What a value of a document should be. -/
inductive Shape where
  | text
  | bool
  | items (item : Shape)
  | table (value : Shape)
  | record (fields : List (Text × Shape))

namespace Shape

/-- The kind of value that a shape asks for. -/
def kind : Shape → Json.Kind
  | .text => .string
  | .bool => .bool
  | .items _ => .array
  | .table _ => .object
  | .record _ => .object

/-- What is said about a value at a path that is of another kind than expected. -/
def mismatch (path : Text) (expected : Json.Kind) (value : Json) : List Text :=
  if value.kind = .null ∨ value.kind = expected then []
  else [path ++ ": esperado " ++ expected.name ++ ", veio " ++ value.kind.name]

/-- The items of an array. -/
def itemsOf : Json → List Json
  | .array list => list
  | _ => []

/-- The members of an object, by name. -/
def membersOf : Json → Table Json
  | .object entries => Json.members entries
  | _ => Table.empty

mutual

/-- Everything that is wrong with a value at a path, in order. -/
def complaints (path : Text) : Shape → Json → List Text
  | .text, value => mismatch path .string value
  | .bool, value => mismatch path .bool value
  | .items shape, value => mismatch path .array value ++
      (itemsOf value).zipIdx.flatMap fun item =>
        complaints (path ++ "[" ++ Text.ofNat item.2 ++ "]") shape item.1
  | .table shape, value => mismatch path .object value ++
      (membersOf value).entries.flatMap fun entry =>
        complaints (path ++ "." ++ entry.1) shape entry.2
  | .record fields, value => mismatch path .object value ++ fieldComplaints path fields value

/-- Everything that is wrong with the members of a value that are named. A member that
is absent is null. -/
def fieldComplaints (path : Text) : List (Text × Shape) → Json → List Text
  | [], _ => []
  | (name, shape) :: rest, value =>
    complaints (path ++ "." ++ name) shape (field (membersOf value) name) ++
      fieldComplaints path rest value

end

/-- Null is of no wrong kind. -/
theorem mismatch_null (path : Text) (expected : Json.Kind) : mismatch path expected .null = [] :=
  if_pos (Or.inl rfl)

mutual

/-- **Null is never wrong**, whatever the shape. -/
theorem complaints_null (path : Text) : ∀ shape : Shape, complaints path shape .null = []
  | .text => mismatch_null ..
  | .bool => mismatch_null ..
  | .items _ => by rw [complaints, mismatch_null]; rfl
  | .table _ => by rw [complaints, mismatch_null]; rfl
  | .record fields => by rw [complaints, mismatch_null, fieldComplaints_empty path fields rfl]; rfl

/-- A value without members lacks nothing that a shape names. -/
theorem fieldComplaints_empty (path : Text) {value : Json} :
    ∀ fields : List (Text × Shape), (membersOf value) = Table.empty →
      fieldComplaints path fields value = []
  | [], _ => rfl
  | (name, shape) :: rest, h => by
    have hnull : field (membersOf value) name = .null := by rw [h]; rfl
    rw [fieldComplaints, hnull, complaints_null, fieldComplaints_empty path rest h]
    rfl

end

/-- **A container of the wrong kind hides everything inside it**: of a value that is
of another kind than its shape asks for, nothing else is said. -/
theorem complaints_of_kind_ne (path : Text) {shape : Shape} {value : Json}
    (h : value.kind ≠ shape.kind) :
    complaints path shape value = mismatch path shape.kind value := by
  cases shape with
  | text => rfl
  | bool => rfl
  | items shape =>
    have hnone : itemsOf value = [] := by cases value <;> first | rfl | exact absurd rfl h
    rw [complaints, hnone]
    exact List.append_nil _
  | table shape =>
    have hnone : membersOf value = Table.empty := by
      cases value <;> first | rfl | exact absurd rfl h
    rw [complaints, hnone]
    exact List.append_nil _
  | record fields =>
    have hnone : membersOf value = Table.empty := by
      cases value <;> first | rfl | exact absurd rfl h
    rw [complaints, fieldComplaints_empty path fields hnone]
    exact List.append_nil _

/-- Complaints about fields go by what the fields hold. -/
theorem fieldComplaints_congr (path : Text) {value value' : Json} {fields : List (Text × Shape)}
    (h : ∀ entry ∈ fields, field (membersOf value) entry.1 = field (membersOf value') entry.1) :
    fieldComplaints path fields value = fieldComplaints path fields value' := by
  induction fields with
  | nil => rfl
  | cons entry rest ih =>
    obtain ⟨name, shape⟩ := entry
    obtain ⟨hentry, hrest⟩ := List.forall_mem_cons.1 h
    rw [fieldComplaints, fieldComplaints, hentry, ih hrest]

/-- **Members that a shape does not name do not matter.** -/
theorem complaints_record_congr (path : Text) {value value' : Json} {fields : List (Text × Shape)}
    (hkind : value.kind = value'.kind)
    (h : ∀ entry ∈ fields, field (membersOf value) entry.1 = field (membersOf value') entry.1) :
    complaints path (.record fields) value = complaints path (.record fields) value' := by
  have hmismatch : mismatch path .object value = mismatch path .object value' := by
    unfold mismatch
    rw [hkind]
  rw [complaints, complaints, hmismatch, fieldComplaints_congr path h]

end Shape

/-- The shape of a method. -/
def methodShape : Shape := .record [("signature", .text), ("docstring", .text)]

/-- The shape of a property. -/
def propertyShape : Shape :=
  .record [("docstring", .text), ("readable", .bool), ("writable", .bool)]

/-- The shape of a class. -/
def classShape : Shape :=
  .record [("methods", .table methodShape), ("properties", .table propertyShape),
    ("base_classes", .items .text), ("docstring", .text)]

/-- The shape of the member `classes` of a document. -/
def catalogShape : Shape := .table classShape

/-- Everything that is wrong with a document, in order. -/
def complaints (document : Json) : List Text :=
  match document with
  | .object entries =>
    match (Json.members entries).get? "classes" with
    | none => ["classes: campo obrigatório ausente"]
    | some value => catalogShape.complaints "classes" value
  | _ => ["documento raiz deve ser um objeto"]

/-! ### Reading up to the first complaint -/

/-- Reading ends with the first of some complaints, and gives a value if there is none. -/
def EndsWith {α : Type} (list : List Text) (read : Except Violation α) : Prop :=
  match read with
  | .error violation => list.head? = some violation.message
  | .ok _ => list = []

/-- Reading is refused with the first complaint, where there is one. -/
theorem EndsWith.exists_error_iff {α : Type} {list : List Text} {read : Except Violation α}
    (h : EndsWith list read) (message : Text) :
    (∃ violation, read = .error violation ∧ violation.message = message) ↔
      list.head? = some message := by
  cases read with
  | error violation =>
    have hhead : list.head? = some violation.message := h
    simp [hhead]
  | ok a =>
    have hnil : list = [] := h
    simp [hnil]

/-- Reading succeeds where there is no complaint. -/
theorem EndsWith.exists_ok_iff {α : Type} {list : List Text} {read : Except Violation α}
    (h : EndsWith list read) : (∃ a, read = .ok a) ↔ list = [] := by
  cases read with
  | error violation =>
    have hhead : list.head? = some violation.message := h
    have hne : list ≠ [] := by
      rintro rfl
      cases hhead
    simp [hne]
  | ok a =>
    have hnil : list = [] := h
    simp [hnil]

/-- A reader ends with the first complaint that a shape has about what it reads. -/
def Reads {α : Type} (shape : Shape) (read : Place → Json → Except Violation α) : Prop :=
  ∀ (place : Place) (value : Json), place ≠ [] →
    EndsWith (shape.complaints place.text value) (read place value)

section Readers

variable {α β : Type} {first second : List Text}

/-- **Reading one thing and then another** ends with the first complaint about either. -/
theorem EndsWith.bind {read : Except Violation α} {next : α → Except Violation β}
    (h : EndsWith first read) (hnext : ∀ a, read = .ok a → EndsWith second (next a)) :
    EndsWith (first ++ second) (read >>= next) := by
  cases read with
  | error violation =>
    show (first ++ second).head? = some violation.message
    rw [List.head?_append, show first.head? = some violation.message from h, Option.some_or]
  | ok a =>
    rw [show first = [] from h, List.nil_append]
    exact hnext a rfl

/-- Making something of what was read adds no complaint. -/
theorem EndsWith.bind_pure {read : Except Violation α} (h : EndsWith first read) (f : α → β) :
    EndsWith first (read >>= fun a => pure (f a)) := by
  have hpure : EndsWith (first ++ []) (read >>= fun a => pure (f a)) := h.bind fun _ _ => rfl
  rwa [List.append_nil] at hpure

/-! #### Texts, truth values, containers -/

/-- A string is read where there is no complaint about its kind. -/
theorem reads_text : Reads .text readText := by
  intro place value _
  cases value <;>
    simp [EndsWith, readText, Shape.complaints, Shape.mismatch, Json.kind, Violation.message]

/-- A truth value is read where there is no complaint about its kind. -/
theorem reads_bool : Reads .bool readBool := by
  intro place value _
  cases value <;>
    simp [EndsWith, readBool, Shape.complaints, Shape.mismatch, Json.kind, Violation.message]

/-- The items of an array are found where there is no complaint about its kind. -/
theorem endsWith_readItems (place : Place) (value : Json) :
    EndsWith (Shape.mismatch place.text .array value) (readItems place value) := by
  cases value <;> simp [EndsWith, readItems, Shape.mismatch, Json.kind, Violation.message]

/-- The members of an object are found where there is no complaint about its kind. -/
theorem endsWith_readMembers (place : Place) (value : Json) :
    EndsWith (Shape.mismatch place.text .object value) (readMembers place value) := by
  cases value <;> simp [EndsWith, readMembers, Shape.mismatch, Json.kind, Violation.message]

/-- The items that are read are those of the value. -/
theorem eq_itemsOf_of_readItems {place : Place} {value : Json} {items : List Json}
    (h : readItems place value = .ok items) : items = Shape.itemsOf value := by
  cases value <;> simp_all [readItems, Shape.itemsOf]

/-- The members that are read are those of the value. -/
theorem eq_membersOf_of_readMembers {place : Place} {value : Json} {members : Table Json}
    (h : readMembers place value = .ok members) : members = Shape.membersOf value := by
  cases value <;> simp_all [readMembers, Shape.membersOf]

/-! #### Tables -/

/-- Entries are read up to the first complaint about one of them. -/
theorem endsWith_readEntries {read : Text → Json → Except Violation β}
    {about : Text → Json → List Text}
    (h : ∀ name value, EndsWith (about name value) (read name value))
    (entries : List (Text × Json)) :
    EndsWith (entries.flatMap fun entry => about entry.1 entry.2)
      (Table.readEntries read entries) := by
  induction entries with
  | nil => rfl
  | cons entry rest ih =>
    obtain ⟨name, value⟩ := entry
    rw [List.flatMap_cons, Table.readEntries_cons]
    exact (h name value).bind fun b _ => ih.bind_pure _

/-- The entries of a table are read up to the first complaint about one of them. -/
theorem endsWith_traverse {read : Text → Json → Except Violation β}
    {about : Text → Json → List Text}
    (h : ∀ name value, EndsWith (about name value) (read name value)) (members : Table Json) :
    EndsWith (members.entries.flatMap fun entry => about entry.1 entry.2)
      (members.traverse read) := by
  have hentries := endsWith_readEntries h members.entries
  cases hread : members.traverse read with
  | error violation =>
    rw [Table.traverse_eq_error_iff.1 hread] at hentries
    exact hentries
  | ok t =>
    rw [Table.traverse_eq_ok_iff.1 hread] at hentries
    exact hentries

/-- **A table is read member by member.** -/
theorem Reads.table {shape : Shape} {read : Place → Json → Except Violation α}
    (h : Reads shape read) : Reads (.table shape) (readTable read) := by
  intro place value hplace
  have hmember : ∀ name value, EndsWith (shape.complaints (place.text ++ "." ++ name) value)
      (read (place.member name) value) := by
    intro name value
    rw [← Place.text_member hplace]
    exact h _ _ (place.member_ne_nil name)
  rw [Shape.complaints]
  refine (endsWith_readMembers place value).bind fun members hmembers => ?_
  rw [← eq_membersOf_of_readMembers hmembers]
  exact endsWith_traverse hmember members

/-! #### Records -/

/-- A member that a shape names is read where the shape looks for it. -/
theorem Reads.field {shape : Shape} {read : Place → Json → Except Violation α}
    (h : Reads shape read) {place : Place} (hplace : place ≠ []) {value : Json}
    {members : Table Json} (hmembers : readMembers place value = .ok members) (name : Text) :
    EndsWith (shape.complaints (place.text ++ "." ++ name)
      (field (Shape.membersOf value) name)) (read (place.member name) (field members name)) := by
  rw [← eq_membersOf_of_readMembers hmembers, ← Place.text_member hplace]
  exact h _ _ (place.member_ne_nil name)

/-- A method is read up to the first complaint about it. -/
theorem reads_method : Reads methodShape readMethod := by
  intro place value hplace
  unfold methodShape readMethod
  rw [Shape.complaints]
  refine (endsWith_readMembers place value).bind fun members hmembers => ?_
  exact (reads_text.field hplace hmembers "signature").bind fun _ _ =>
    (reads_text.field hplace hmembers "docstring").bind fun _ _ => rfl

/-- A property is read up to the first complaint about it. -/
theorem reads_property : Reads propertyShape readProperty := by
  intro place value hplace
  unfold propertyShape readProperty
  rw [Shape.complaints]
  refine (endsWith_readMembers place value).bind fun members hmembers => ?_
  exact (reads_text.field hplace hmembers "docstring").bind fun _ _ =>
    (reads_bool.field hplace hmembers "readable").bind fun _ _ =>
      (reads_bool.field hplace hmembers "writable").bind fun _ _ => rfl

/-- Bases are read up to the first complaint about an item, each by its index. -/
theorem endsWith_readBasesFrom {place : Place} (hplace : place ≠ []) (items : List Json)
    (index : Nat) :
    EndsWith ((items.zipIdx index).flatMap fun item =>
        Shape.complaints (place.text ++ "[" ++ Text.ofNat item.2 ++ "]") .text item.1)
      (readBasesFrom place index items) := by
  induction items generalizing index with
  | nil => rfl
  | cons item rest ih =>
    have hitem := reads_text (place.item index) item (place.item_ne_nil index)
    rw [Place.text_item hplace] at hitem
    rw [List.zipIdx_cons, List.flatMap_cons]
    exact hitem.bind fun base _ => (ih (index + 1)).bind_pure _

/-- The array of the bases is read up to the first complaint about it. -/
theorem reads_bases : Reads (.items .text) readBases := by
  intro place value hplace
  rw [Shape.complaints]
  refine (endsWith_readItems place value).bind fun items hitems => ?_
  rw [← eq_itemsOf_of_readItems hitems]
  exact (endsWith_readBasesFrom hplace items 0).bind_pure _

/-- A class is read up to the first complaint about it, in the order of its fields. -/
theorem reads_class : Reads classShape readClass := by
  intro place value hplace
  unfold classShape readClass
  rw [Shape.complaints]
  refine (endsWith_readMembers place value).bind fun members hmembers => ?_
  exact (reads_method.table.field hplace hmembers "methods").bind fun _ _ =>
    (reads_property.table.field hplace hmembers "properties").bind fun _ _ =>
      (reads_bases.field hplace hmembers "base_classes").bind fun _ _ =>
        (reads_text.field hplace hmembers "docstring").bind fun _ _ => rfl

end Readers

/-! ### Documents -/

/-- **Reading a document ends with the first complaint about it.** -/
theorem endsWith_ofJson (document : Json) : EndsWith (complaints document) (ofJson document) := by
  cases document with
  | object entries =>
    unfold complaints ofJson
    simp only
    cases (Json.members entries).get? "classes" with
    | none => rfl
    | some value => exact reads_class.table classesPlace value (List.cons_ne_nil _ _)
  | _ => rfl

/-- **A document is refused if and only if something is wrong with it, and with the first
complaint.** Null is never wrong; about a value of another kind than its shape asks for
nothing more is said; and of a record only the members that are named matter. -/
theorem ofJson_ends_with_first_complaint (document : Json) :
    (∀ message, (∃ violation, ofJson document = .error violation ∧ violation.message = message) ↔
      (complaints document).head? = some message) ∧
    ((∃ catalog, ofJson document = .ok catalog) ↔ complaints document = []) ∧
    ∀ path : Text, (∀ shape : Shape, shape.complaints path .null = []) ∧
      (∀ (shape : Shape) (value : Json), value.kind ≠ shape.kind →
        shape.complaints path value = Shape.mismatch path shape.kind value) ∧
      ∀ (fields : List (Text × Shape)) (value value' : Json), value.kind = value'.kind →
        (∀ entry ∈ fields,
          field (Shape.membersOf value) entry.1 = field (Shape.membersOf value') entry.1) →
        (Shape.record fields).complaints path value =
          (Shape.record fields).complaints path value' := by
  have hends := endsWith_ofJson document
  refine ⟨hends.exists_error_iff, hends.exists_ok_iff, fun path => ⟨?_, ?_, ?_⟩⟩
  · exact Shape.complaints_null path
  · exact fun shape value hkind => Shape.complaints_of_kind_ne path hkind
  · exact fun fields value value' hkind h => Shape.complaints_record_congr path hkind h

/-- A document with four faults, in this order: the docstring of a method, a base, the
docstring of a class, and a class that is a list. -/
def fourFaults : Json :=
  .object [("classes", .object
    [("Actor", .object
      [("docstring", .integer 1),
       ("methods", .object
         [("move", .object [("docstring", .array []), ("signature", .null)])]),
       ("base_classes", .array [.string [], .bool true]),
       ("speed", .array [])]),
     ("World", .array [.string "Actor"])])]

/-- The fault that is reported is not the one written first; what a list holds in the place
of a class does not matter, and neither does a member without a meaning. -/
theorem ofJson_ends_with_first_complaint_fourFaults :
    (∃ violation, ofJson fourFaults = .error violation ∧
      violation.message = "classes.Actor.methods.move.docstring: esperado str, veio list") ∧
    (complaints fourFaults).length = 4 ∧ (¬ ∃ catalog, ofJson fourFaults = .ok catalog) ∧
    classShape.complaints "classes.World" (.array [.string "Actor"]) =
      [("classes.World: esperado dict, veio list" : Text)] ∧
    classShape.complaints "classes.Actor" (.object [("speed", .array [])]) =
      classShape.complaints "classes.Actor" (.object []) := by
  obtain ⟨hfirst, haccepted, hshapes⟩ := ofJson_ends_with_first_complaint fourFaults
  have hlength : (complaints fourFaults).length = 4 := by decide +kernel
  refine ⟨(hfirst _).2 (by decide +kernel), hlength, fun h => ?_, ?_, ?_⟩
  · rw [haccepted.1 h] at hlength
    cases hlength
  · obtain ⟨-, hhidden, -⟩ := hshapes "classes.World"
    exact (hhidden classShape (.array [.string "Actor"]) (by decide)).trans (by decide)
  · obtain ⟨-, -, hnamed⟩ := hshapes "classes.Actor"
    refine hnamed _ _ _ rfl ?_
    simp only [List.forall_mem_cons]
    exact ⟨rfl, rfl, rfl, rfl, fun entry h => absurd h List.not_mem_nil⟩

end Catalog
end ApiGuide
