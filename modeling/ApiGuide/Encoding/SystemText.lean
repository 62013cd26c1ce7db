/-
# Texts of the system

The names of files and the values of variables are octets to the system. A text is
put into UTF-8 for it, and octets that are no UTF-8 are shown as surrogates:

| surrogate | octet |
| --- | --- |
| `U+DC80`–`U+DCFF` | `80`–`FF` |
| any other | none |

A text with a surrogate that stands for no octet cannot be given to the system, nor
can a text with a NUL character, which would end it.
-/

import ApiGuide.Encoding.Surrogate
import ApiGuide.Encoding.Utf8

namespace ApiGuide

/-- Why a text cannot be given to the system. -/
inductive SystemFault where
  | unsendable (fault : Encoding.Unsendable)
  | nul
deriving DecidableEq

/-- The report of a fault. -/
def SystemFault.message : SystemFault → Text
  | .unsendable fault => fault.message
  | .nul => "embedded null byte"

namespace SystemText

/-- Whether a surrogate stands for an octet. -/
def isEscape (c : CodePoint) : Bool := decide (0xDC80 ≤ c.val ∧ c.val ≤ 0xDCFF)

/-- The octets of a code point. -/
def octetsOne (c : CodePoint) : Octets :=
  if isEscape c then [UInt8.ofNat (c.val - 0xDC00)] else Utf8.encodeOne c

/-- The octets of a text. -/
def octets (t : Text) : Octets := t.flatMap octetsOne

/-- The surrogate that stands for an octet. -/
def escape (b : UInt8) : CodePoint := CodePoint.ofNat (0xDC00 + b.toNat)

/-- The text that some octets are shown as. -/
def ofOctets (octets : Octets) : Text := Utf8.decodeReplacing (·.map escape) octets

/-- Why a text cannot be given to the system, if it cannot. A surrogate is reported
before a NUL character. -/
def fault? (t : Text) : Option SystemFault :=
  match Encoding.unsendableFrom? (fun c => c.isSurrogate && !isEscape c) 0 t with
  | some fault => some (.unsendable fault)
  | none => if CodePoint.ofNat 0 ∈ t then some .nul else none

/-- **Of the texts without surrogates, those without NUL characters can be given to the
system**, and no others. -/
theorem fault?_of_forall_not_isSurrogate {t : Text} (h : ∀ c ∈ t, c.isSurrogate = false) :
    fault? t = if CodePoint.ofNat 0 ∈ t then some .nul else none := by
  have hsend : Encoding.unsendableFrom? (fun c => c.isSurrogate && !isEscape c) 0 t = none :=
    Encoding.unsendableFrom?_eq_none_iff.2 fun c hc => by rw [h c hc, Bool.false_and]
  rw [fault?, hsend]

/-- What the system shows for a text that is given to it. -/
def shown (t : Text) : Except SystemFault Text :=
  match fault? t with
  | some fault => .error fault
  | none => .ok (ofOctets (octets t))

end SystemText
end ApiGuide
