/-
# Catalogs as documents

`parse_catalog` in section 3.1 of the specification, and what a class or a method is written
as (`to_dict`).

Reading a catalog from a document ends at the first violation. The places are
visited in this order: `classes`; then class by class the class itself, its
methods (each with its signature, then its docstring), its properties (each with
its docstring, then whether it is readable and writable), its base classes, and
last its docstring. Members that are not known are skipped, and so are empty names
of base classes.

Writing gives a document that reads back as the same catalog.
-/

import ApiGuide.Catalog.Basic
import ApiGuide.Catalog.Violation

namespace ApiGuide
namespace Catalog

/-! ### Reading -/

/-- The text at a place. -/
def readText (place : Place) : Json → Except Violation Text
  | .null => .ok []
  | .string t => .ok t
  | value => .error (.wrongKind place .string value.kind)

/-- The truth value at a place. -/
def readBool (place : Place) : Json → Except Violation Bool
  | .null => .ok false
  | .bool b => .ok b
  | value => .error (.wrongKind place .bool value.kind)

/-- The items of the array at a place. -/
def readItems (place : Place) : Json → Except Violation (List Json)
  | .null => .ok []
  | .array items => .ok items
  | value => .error (.wrongKind place .array value.kind)

/-- The members of the object at a place. -/
def readMembers (place : Place) : Json → Except Violation (Table Json)
  | .null => .ok Table.empty
  | .object entries => .ok (Json.members entries)
  | value => .error (.wrongKind place .object value.kind)

/-- The table at a place, each value read at the place of its name. -/
def readTable {α : Type} (read : Place → Json → Except Violation α) (place : Place)
    (value : Json) : Except Violation (Table α) := do
  let members ← readMembers place value
  members.traverse fun name => read (place.member name)

/-- The value of a member, null where there is none. -/
def field (members : Table Json) (name : Text) : Json := (members.get? name).getD .null

/-- The method at a place. -/
def readMethod (place : Place) (value : Json) : Except Violation Method := do
  let members ← readMembers place value
  let signature ← readText (place.member "signature") (field members "signature")
  let docstring ← readText (place.member "docstring") (field members "docstring")
  return ⟨signature, docstring⟩

/-- The property at a place. -/
def readProperty (place : Place) (value : Json) : Except Violation Property := do
  let members ← readMembers place value
  let docstring ← readText (place.member "docstring") (field members "docstring")
  let readable ← readBool (place.member "readable") (field members "readable")
  let writable ← readBool (place.member "writable") (field members "writable")
  return ⟨docstring, readable, writable⟩

/-- The texts of the items at a place from an index on. -/
def readBasesFrom (place : Place) : (index : Nat) → List Json → Except Violation (List Text)
  | _, [] => .ok []
  | index, item :: rest => do
    let base ← readText (place.item index) item
    let bases ← readBasesFrom place (index + 1) rest
    return base :: bases

/-- The names of the base classes at a place, without the empty ones. -/
def readBases (place : Place) (value : Json) : Except Violation (List Text) := do
  let items ← readItems place value
  let bases ← readBasesFrom place 0 items
  return bases.filter (· ≠ [])

/-- The class at a place. -/
def readClass (place : Place) (value : Json) : Except Violation Class := do
  let members ← readMembers place value
  let methods ← readTable readMethod (place.member "methods") (field members "methods")
  let properties ← readTable readProperty (place.member "properties") (field members "properties")
  let bases ← readBases (place.member "base_classes") (field members "base_classes")
  let docstring ← readText (place.member "docstring") (field members "docstring")
  return ⟨docstring, bases, methods, properties⟩

/-- The place of the classes. -/
def classesPlace : Place := [.member "classes"]

/-- The catalog in a document. -/
def ofJson (document : Json) : Except Violation Catalog :=
  match document with
  | .object entries =>
    match (Json.members entries).get? "classes" with
    | none => .error .classesMissing
    | some value => readTable readClass classesPlace value
  | _ => .error .rootNotObject

/-! ### Writing -/

/-- A table as an object. -/
def tableToJson {α : Type} (f : Text → α → Json) (t : Table α) : Json :=
  .object (t.entries.map fun entry => (entry.1, f entry.1 entry.2))

/-- A method as an object. -/
def methodToJson (m : Method) : Json :=
  .object [("signature", .string m.signature), ("docstring", .string m.docstring)]

/-- A property as an object. -/
def propertyToJson (p : Property) : Json :=
  .object [("docstring", .string p.docstring), ("readable", .bool p.readable),
    ("writable", .bool p.writable)]

/-- A class as an object. -/
def classToJson (name : Text) (c : Class) : Json :=
  .object [("name", .string name), ("docstring", .string c.docstring),
    ("base_classes", .array (c.bases.map .string)),
    ("methods", tableToJson (fun _ => methodToJson) c.methods),
    ("properties", tableToJson (fun _ => propertyToJson) c.properties)]

/-- The document of a catalog. -/
def toJson (catalog : Catalog) : Json :=
  .object [("classes", tableToJson classToJson catalog)]

/-- The counts as an object. -/
def countsToJson (counts : Counts) : Json :=
  .object [("classes", .integer counts.classes), ("methods", .integer counts.methods),
    ("properties", .integer counts.properties)]

end Catalog
end ApiGuide
