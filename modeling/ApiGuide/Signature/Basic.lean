/-
# Signatures

`parse_signature` in section 3.2 of the specification.

The parameters of a signature, in order: the pieces of its parameter list, less
the blank ones and the receivers. A signature without a balanced pair of brackets
has none.
-/

import ApiGuide.Signature.ParameterList
import ApiGuide.Signature.Parameter

namespace ApiGuide
namespace Signature

/-- The parameters of a signature. -/
def parameters (raw : Text) : List Parameter :=
  match parameterList? raw with
  | none => []
  | some list => (splitParameters list).filterMap Parameter.ofPiece?

example : parameters "spawn(self, blueprint: Blueprint, at=None)" =
    [⟨"blueprint", some ↑"Blueprint", none⟩, ⟨"at", none, some ↑"None"⟩] := by decide

end Signature
end ApiGuide
