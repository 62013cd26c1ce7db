/-
# UTF-8

A character takes one to four octets; the first octet gives the length and limits
the second one:

| first | second | others |
| --- | --- | --- |
| `00`–`7F` | | |
| `C2`–`DF` | `80`–`BF` | |
| `E0` | `A0`–`BF` | `80`–`BF` |
| `E1`–`EF` but `ED` | `80`–`BF` | `80`–`BF` |
| `ED` | `80`–`9F` | `80`–`BF` |
| `F0` | `90`–`BF` | `80`–`BF` twice |
| `F1`–`F3` | `80`–`BF` | `80`–`BF` twice |
| `F4` | `80`–`8F` | `80`–`BF` twice |

Octets that fit no row are bad; the bad part is the longest beginning of a row,
at least one octet. A reader may also take the three octets of a surrogate, `ED`
with a second octet from `A0` on.
-/

import ApiGuide.Text.Basic

namespace ApiGuide

/-- A sequence of octets. -/
abbrev Octets := List UInt8

namespace Utf8

/-! ### Writing -/

/-- The octets of a code point. A surrogate is written by the same rule. -/
def encodeOne (c : CodePoint) : Octets :=
  let n := c.val
  let more := fun k : Nat => UInt8.ofNat (0x80 + n / k % 64)
  if n < 0x80 then [UInt8.ofNat n]
  else if n < 0x800 then [UInt8.ofNat (0xC0 + n / 64), more 1]
  else if n < 0x10000 then [UInt8.ofNat (0xE0 + n / 4096), more 64, more 1]
  else [UInt8.ofNat (0xF0 + n / 262144), more 4096, more 64, more 1]

/-- The octets of a text. -/
def encode (t : Text) : Octets := t.flatMap encodeOne

/-! ### Reading -/

/-- What is wrong with octets that stand for no character. -/
inductive Flaw where
  | invalidStart
  | invalidContinuation
  | unexpectedEnd
deriving DecidableEq

/-- What stands at the front of some octets: a character and the octets after it,
or a bad part of so many octets, at least one. -/
inductive Front where
  | character (c : CodePoint) (rest : Octets)
  | bad (count : Nat) (flaw : Flaw)

/-- Whether an octet continues a character. -/
def isContinuation (b : UInt8) : Bool := decide (0x80 ≤ b.toNat ∧ b.toNat ≤ 0xBF)

/-- The least and the greatest second octet after a first octet. -/
def secondRange (first : Nat) : Nat × Nat :=
  if first = 0xE0 then (0xA0, 0xBF)
  else if first = 0xED then (0x80, 0x9F)
  else if first = 0xF0 then (0x90, 0xBF)
  else if first = 0xF4 then (0x80, 0x8F)
  else (0x80, 0xBF)

/-- Whether a second octet fits its first octet. -/
def fits (first : Nat) (b : UInt8) : Bool :=
  decide ((secondRange first).1 ≤ b.toNat ∧ b.toNat ≤ (secondRange first).2)

/-- A further octet of a character: its six bits put behind those already read. -/
def extend (bits : Nat) (b : UInt8) : Nat := bits * 64 + b.toNat % 64

/-- The surrogate at the front of some octets. -/
def surrogate? : Octets → Option (CodePoint × Octets)
  | a :: b :: c :: rest =>
    if a.toNat = 0xED ∧ 0xA0 ≤ b.toNat ∧ b.toNat ≤ 0xBF ∧ isContinuation c then
      some (CodePoint.ofNat (extend (extend 0xD b) c), rest)
    else none
  | _ => none

/-- The character at the front of some octets, given the first of them. -/
def front (first : UInt8) (rest : Octets) : Front :=
  let a := first.toNat
  if a < 0x80 then .character (CodePoint.ofNat a) rest
  else if a < 0xC2 ∨ 0xF5 ≤ a then .bad 1 .invalidStart
  else
    match rest with
    | [] => .bad 1 .unexpectedEnd
    | b :: rest =>
      if ¬ fits a b then .bad 1 .invalidContinuation
      else if a < 0xE0 then .character (CodePoint.ofNat (extend (a - 0xC0) b)) rest
      else
        match rest with
        | [] => .bad 2 .unexpectedEnd
        | c :: rest =>
          if ¬ isContinuation c then .bad 2 .invalidContinuation
          else if a < 0xF0 then .character (CodePoint.ofNat (extend (extend (a - 0xE0) b) c)) rest
          else
            match rest with
            | [] => .bad 3 .unexpectedEnd
            | d :: rest =>
              if ¬ isContinuation d then .bad 3 .invalidContinuation
              else .character
                (CodePoint.ofNat (extend (extend (extend (a - 0xF0) b) c) d)) rest

/-- What is left behind a surrogate is shorter. -/
theorem length_surrogate? {octets rest : Octets} {c : CodePoint}
    (h : surrogate? octets = some (c, rest)) : rest.length < octets.length := by
  unfold surrogate? at h
  split at h
  · split at h
    · simp only [Option.some.injEq, Prod.mk.injEq] at h
      obtain ⟨-, rfl⟩ := h
      simp only [List.length_cons]
      omega
    · simp at h
  · simp at h

/-- A character takes at least its first octet. -/
theorem length_front {first : UInt8} {octets rest : Octets} {c : CodePoint}
    (h : front first octets = .character c rest) : rest.length ≤ octets.length := by
  unfold front at h
  simp only at h
  repeat' split at h
  all_goals first
    | (simp only [Front.character.injEq] at h; obtain ⟨-, rfl⟩ := h; simp; try omega)
    | simp at h

/-- Where and why octets are bad: the number of octets from the bad part on, the
bad part, and what is wrong with it. -/
structure Fault where
  left : Nat
  part : Octets
  flaw : Flaw
deriving DecidableEq

/-- The text of some octets, surrogates included. `done` is what the octets before
stand for, last character first. -/
def decodeFrom (octets : Octets) (done : Text) : Except Fault Text :=
  match octets with
  | [] => .ok done.reverse
  | first :: rest =>
    match _hs : surrogate? (first :: rest) with
    | some (c, after) => decodeFrom after (c :: done)
    | none =>
      match _hf : front first rest with
      | .character c after => decodeFrom after (c :: done)
      | .bad count flaw => .error ⟨(first :: rest).length, (first :: rest).take count, flaw⟩
termination_by octets.length
decreasing_by
  · exact length_surrogate? _hs
  · have := length_front _hf
    simp only [List.length_cons]
    omega

/-- The text of some octets. The octets of surrogates are taken for surrogates. -/
def decode (octets : Octets) : Except Fault Text := decodeFrom octets []

/-- The text of some octets with another text for each bad part; `done` is what the
octets before stand for, last character first. -/
def decodeReplacingFrom (replacement : Octets → Text) (octets : Octets) (done : Text) : Text :=
  match octets with
  | [] => done.reverse
  | first :: rest =>
    match _hf : front first rest with
    | .character c after => decodeReplacingFrom replacement after (c :: done)
    | .bad count _ =>
      let part := (first :: rest).take count
      decodeReplacingFrom replacement (rest.drop (count - 1)) ((replacement part).reverse ++ done)
termination_by octets.length
decreasing_by
  · have := length_front _hf
    simp only [List.length_cons]
    omega
  · simp only [List.length_drop, List.length_cons]
    omega

/-- The text of some octets with another text for each bad part. -/
def decodeReplacing (replacement : Octets → Text) (octets : Octets) : Text :=
  decodeReplacingFrom replacement octets []

/-- The text of some octets with the replacement character for each bad part. -/
def decodeLossy (octets : Octets) : Text :=
  decodeReplacing (fun _ => [CodePoint.ofNat 0xFFFD]) octets

end Utf8
end ApiGuide
