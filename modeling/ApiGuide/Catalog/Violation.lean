/-
# Violations of the shape of a catalog document

The shape in section 3.1 of the specification.

A catalog document is an object with the member `classes`:

| place | value |
| --- | --- |
| `classes` | object of classes by name |
| `classes.C` | object |
| `classes.C.methods` | object of methods by name |
| `classes.C.methods.m` | object |
| `classes.C.methods.m.signature`, `….docstring` | string |
| `classes.C.properties` | object of properties by name |
| `classes.C.properties.p` | object |
| `classes.C.properties.p.docstring` | string |
| `classes.C.properties.p.readable`, `….writable` | boolean |
| `classes.C.base_classes` | array |
| `classes.C.base_classes[i]` | string |
| `classes.C.docstring` | string |

At every place `null` is as good as an absent member. A violation names the place,
the kind that the value should be of, and the kind that it is of.
-/

import ApiGuide.Json.Basic
import ApiGuide.Text.Numeral

namespace ApiGuide
namespace Catalog

/-- A step from a value to a part of it. -/
inductive Step where
  | member (name : Text)
  | item (index : Nat)
deriving DecidableEq

/-- A place in a document: the steps from the root. -/
abbrev Place := List Step

namespace Place

/-- The place of a member of the value at a place. -/
def member (place : Place) (name : Text) : Place := place ++ [.member name]

/-- The place of an item of the value at a place. -/
def item (place : Place) (index : Nat) : Place := place ++ [.item index]

/-- The steps behind the first one: a dot before each name, an index in brackets. -/
def tailText : Place → Text
  | [] => []
  | .member name :: rest => "." ++ name ++ tailText rest
  | .item index :: rest => "[" ++ Text.ofNat index ++ "]" ++ tailText rest

/-- A place as text. -/
def text : Place → Text
  | .member name :: rest => name ++ tailText rest
  | place => tailText place

end Place

/-- Why a document is no catalog. -/
inductive Violation where
  | rootNotObject
  | classesMissing
  | wrongKind (place : Place) (expected actual : Json.Kind)
deriving DecidableEq

/-- The report of a violation. -/
def Violation.message : Violation → Text
  | .rootNotObject => "documento raiz deve ser um objeto"
  | .classesMissing => "classes: campo obrigatório ausente"
  | .wrongKind place expected actual =>
    place.text ++ ": esperado " ++ expected.name ++ ", veio " ++ actual.name

end Catalog
end ApiGuide
