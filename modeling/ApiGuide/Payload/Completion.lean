/-
# Completion lists

`build_completions` in section 3.4 of the specification.

After a receiver and a dot, the members of the class of that name are offered;
everywhere else, the classes. An item is listed by its rank and then its label,
code point by code point:

| item | rank | text to insert |
| --- | --- | --- |
| class | `0` | |
| method without parameters | `1` | its name |
| method with parameters | `1` | a snippet with a numbered placeholder for each |
| property | `2` | |
-/

import ApiGuide.Catalog.Basic
import ApiGuide.Context
import ApiGuide.Payload.Markup
import ApiGuide.Signature.Basic
import ApiGuide.Text.Numeral

namespace ApiGuide
namespace Payload

/-- What a completion item stands for. -/
inductive ItemKind where
  | ofClass
  | ofMethod
  | ofProperty
deriving DecidableEq

/-- The name of a kind. -/
def ItemKind.name : ItemKind → Text
  | .ofClass => "class"
  | .ofMethod => "method"
  | .ofProperty => "property"

/-- The rank of a kind in a list. -/
def ItemKind.rank : ItemKind → Text
  | .ofClass => "0"
  | .ofMethod => "1"
  | .ofProperty => "2"

/-- What is typed when an item is chosen: the label, a text, or a snippet. -/
inductive Insertion where
  | label
  | text (t : Text)
  | snippet (t : Text)
deriving DecidableEq

/-- The text to insert, where it is not the label. -/
def Insertion.text? : Insertion → Option Text
  | .label => none
  | .text t => some t
  | .snippet t => some t

/-- The format of the text to insert, where it is not plain text. -/
def Insertion.format? : Insertion → Option Text
  | .snippet _ => some "snippet"
  | _ => none

/-- An item of a completion list. -/
structure CompletionItem where
  label : Text
  kind : ItemKind
  detail : Option Text
  documentation : Text
  insertion : Insertion
deriving DecidableEq

namespace CompletionItem

/-- The text by which items are put in order. -/
def sortText (item : CompletionItem) : Text := item.kind.rank ++ item.label

/-- The item of a class. -/
def ofClass (apiName name : Text) (c : Class) : CompletionItem :=
  ⟨name, .ofClass, none, c.docstring.orElse (apiName ++ " " ++ name ++ " class"), .label⟩

/-- A placeholder of a snippet. -/
def placeholder (number : Nat) (shown : Text) : Text :=
  "$\x7b" ++ Text.ofNat number ++ ":" ++ shown ++ "\x7d"

/-- The placeholders of some names, numbered on from a number. -/
def placeholders : (number : Nat) → List Text → List Text
  | _, [] => []
  | number, name :: rest => placeholder number name :: placeholders (number + 1) rest

/-- A call with a placeholder for each parameter. -/
def snippet (name : Text) (parameters : List Parameter) : Text :=
  name ++ "(" ++ Text.join ", " (placeholders 1 (parameters.map (·.name))) ++ ")"

/-- What a method inserts: its name, and placeholders where it has parameters. -/
def methodInsertion (name signature : Text) : Insertion :=
  match Signature.parameters signature with
  | [] => .text name
  | parameters => .snippet (snippet name parameters)

/-- The item of a method. -/
def ofMethod (name : Text) (m : Method) : CompletionItem :=
  let shown := m.signature.orElse (name ++ "()")
  ⟨name, .ofMethod, some shown,
    codeBlock shown ++ "\n\n" ++ m.docstring.orElse noDocumentation,
    methodInsertion name m.signature⟩

/-- The item of a property. -/
def ofProperty (name : Text) (p : Property) : CompletionItem :=
  ⟨name, .ofProperty, some (Text.trim (p.access ++ " Property")),
    "**" ++ p.access ++ " Property**\n\n" ++ p.docstring.orElse noDocumentation, .label⟩

/-- An item as a value. The members that are not for every item stand where a
reader expects them: the detail before the documentation, the text to insert
before the text to sort by, and its format last. -/
def toJson (item : CompletionItem) : Json :=
  .object (Json.entry "label" (.string item.label) ++
    Json.entry "kind" (.string item.kind.name) ++
    Json.textEntry? "detail" item.detail ++
    Json.entry "documentation" (markdown item.documentation) ++
    Json.textEntry? "insertText" item.insertion.text? ++
    Json.entry "sortText" (.string item.sortText) ++
    Json.textEntry? "insertTextFormat" item.insertion.format?)

end CompletionItem

/-- The items of the members of a class: methods, then properties. -/
def memberItems (c : Class) : List CompletionItem :=
  c.methods.entries.map (fun entry => .ofMethod entry.1 entry.2) ++
    c.properties.entries.map (fun entry => .ofProperty entry.1 entry.2)

/-- The items of all classes. -/
def classItems (apiName : Text) (catalog : Catalog) : List CompletionItem :=
  catalog.entries.map fun entry => .ofClass apiName entry.1 entry.2

/-- Items in the order of a list. -/
def sorted (items : List CompletionItem) : List CompletionItem :=
  items.mergeSort fun a b => a.sortText.atMost b.sortText

/-- The completion list for a context. -/
def completions (apiName : Text) (catalog : Catalog) : Context → List CompletionItem
  | .dot receiver =>
    match catalog.get? receiver with
    | some c => sorted (memberItems c)
    | none => []
  | _ => sorted (classItems apiName catalog)

end Payload
end ApiGuide
