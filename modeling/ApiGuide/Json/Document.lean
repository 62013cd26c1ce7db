/-
# JSON documents in octets

A document is read in two steps: its octets are read as text, in the encoding that
its first octets show, and the text is read as JSON.
-/

import ApiGuide.Encoding.Document
import ApiGuide.Json.Message
import ApiGuide.Json.Reader

namespace ApiGuide
namespace Json

/-- Why there is no document in some octets. -/
inductive DocumentFault where
  | encoding (fault : Encoding.Fault)
  | text (t : Text) (refusal : Refusal)

/-- The report of a fault. -/
def DocumentFault.message : DocumentFault → Text
  | .encoding fault => fault.message
  | .text t refusal => refusal.message t

/-- The document in some octets, where at most `depth` containers stand inside each other. -/
def ofOctets (octets : Octets) (depth : Nat := usualDepth) : Except DocumentFault Json :=
  match Encoding.decode octets with
  | .error fault => .error (.encoding fault)
  | .ok t => (read t depth).mapError (.text t)

end Json
end ApiGuide
