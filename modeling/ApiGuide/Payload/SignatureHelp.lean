/-
# Signature help

`build_signature_help` in section 3.4 of the specification.

Inside the argument list of a method of a known class, the signature of the
method is shown with its parameters and the number of the argument at the cursor.
-/

import ApiGuide.Catalog.Basic
import ApiGuide.Context
import ApiGuide.Payload.Markup
import ApiGuide.Signature.Basic

namespace ApiGuide
namespace Payload

/-- A parameter as signature help shows it. -/
structure ParameterHelp where
  label : Text
  documentation : Text
deriving DecidableEq

/-- A line that shows a text under a title; nothing for the empty text. -/
def titled (title shown : Text) : Text :=
  if shown = [] then [] else title ++ ": `" ++ shown ++ "`\n\n"

/-- A parameter with its annotation and default. Empty ones are left out. -/
def ParameterHelp.ofParameter (p : Parameter) : ParameterHelp :=
  let type := p.type.getD []
  ⟨if type = [] then p.name else p.name ++ ": " ++ type,
    "Parameter: `" ++ p.name ++ "`\n\n" ++ titled "Type" type ++
      titled "Default" (p.default.getD [])⟩

/-- The help for one signature: the argument at the cursor is numbered from zero. -/
structure SignatureHelp where
  label : Text
  documentation : Text
  parameters : List ParameterHelp
  active : Int
deriving DecidableEq

/-- The help for a method, at an argument. -/
def SignatureHelp.ofMethod (m : Method) (active : Int) : SignatureHelp :=
  ⟨m.signature, m.docstring, (Signature.parameters m.signature).map .ofParameter, max 0 active⟩

/-- The signature help for a context. -/
def signatureHelp? (catalog : Catalog) : Context → Option SignatureHelp
  | .call receiver method active =>
    (catalog.get? receiver).bind fun c =>
      (c.methods.get? method).map fun m => .ofMethod m active
  | _ => none

/-- A parameter as a value. -/
def ParameterHelp.toJson (p : ParameterHelp) : Json :=
  .object [("label", .string p.label), ("documentation", markdown p.documentation)]

/-- Signature help as a value. -/
def SignatureHelp.toJson (help : SignatureHelp) : Json :=
  .object [
    ("signatures", .array [.object [
      ("label", .string help.label),
      ("documentation", markdown help.documentation),
      ("parameters", .array (help.parameters.map ParameterHelp.toJson))]]),
    ("activeSignature", .integer 0),
    ("activeParameter", .integer help.active)]

end Payload
end ApiGuide
