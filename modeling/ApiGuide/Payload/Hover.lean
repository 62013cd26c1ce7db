/-
# Hover

`build_hover` in section 3.4 of the specification.

On a word that names a class, the class is shown. On another word whose receiver
names a class, its method of that name is shown, or else its property of that
name.
-/

import ApiGuide.Catalog.Basic
import ApiGuide.Context
import ApiGuide.Payload.Markup

namespace ApiGuide
namespace Payload

/-- What is shown over a word. -/
structure Hover where
  contents : Text
deriving DecidableEq

namespace Hover

/-- A class, with its base classes. -/
def ofClass (apiName name : Text) (c : Class) : Hover :=
  ⟨"**" ++ apiName ++ " Class: " ++ name ++ "**\n\n" ++ c.docstring.orElse noDocumentation ++
    "\n\nBase classes: " ++ Text.join ", " c.bases⟩

/-- A method of a class. -/
def ofMethod (owner name : Text) (m : Method) : Hover :=
  ⟨"**Method: " ++ owner ++ "." ++ name ++ "**\n\n" ++ codeBlock m.signature ++ "\n\n" ++
    m.docstring.orElse noDocumentation⟩

/-- A property of a class. -/
def ofProperty (owner name : Text) (p : Property) : Hover :=
  let access : Text := if p.access = [] then [] else "**" ++ p.access ++ " Property**\n\n"
  ⟨"**Property: " ++ owner ++ "." ++ name ++ "**\n\n" ++ access ++
    p.docstring.orElse noDocumentation⟩

/-- A member of a class: a method goes before a property. -/
def ofMember? (owner name : Text) (c : Class) : Option Hover :=
  match c.methods.get? name with
  | some m => some (ofMethod owner name m)
  | none => (c.properties.get? name).map (ofProperty owner name)

/-- What is shown as a value. -/
def toJson (hover : Hover) : Json := .object [("contents", markdown hover.contents)]

end Hover

/-- What is shown for a context. A receiver without a name is none. -/
def hover? (apiName : Text) (catalog : Catalog) : Context → Option Hover
  | .word word receiver? =>
    match catalog.get? word with
    | some c => some (.ofClass apiName word c)
    | none =>
      (receiver?.filter (· ≠ [])).bind fun owner =>
        (catalog.get? owner).bind (Hover.ofMember? owner word)
  | _ => none

end Payload
end ApiGuide
