/-
# Strings and numbers in JSON text

Readers for the two kinds of JSON tokens that have an inside. Each takes a text
and gives what it read from the front and the rest.

In a string a backslash begins an escape. `\u` takes four hexadecimal digits, and
something has to follow them; two escapes that name the halves of a surrogate
pair are one code point, a half alone stands for itself. A number is the longest
beginning of the text that is one: `01` is `0` followed by `1`, and `1.e5` is `1`
followed by `.e5`.
-/

import ApiGuide.Text.Digit
import ApiGuide.Number.Binary64

namespace ApiGuide
namespace Json

/-- What is wrong at the place where a text stops being JSON. -/
inductive Mistake where
  | expectingValue
  | expectingName
  | expectingColon
  | expectingComma
  | extraData
  | unterminatedString
  | controlCharacter
  | invalidEscape
  | invalidUnicodeEscape
deriving DecidableEq

/-- The two kinds of values that hold values. -/
inductive Container where
  | array
  | object
deriving DecidableEq

/-- Why a text cannot be read: a mistake with so many characters left, an integer
with too many digits, or a container inside too many others. -/
inductive Refusal where
  | mistake (what : Mistake) (left : Nat)
  | tooManyDigits (digits : Nat)
  | tooDeep (container : Container)
deriving DecidableEq

/-! ### Strings -/

/-- The character that a letter after a backslash stands for. -/
def escape? (c : CodePoint) : Option CodePoint :=
  if c = '"' ∨ c = '\\' ∨ c = '/' then some c
  else if c = 'b' then some (CodePoint.ofNat 8)
  else if c = 'f' then some (CodePoint.ofNat 12)
  else if c = 'n' then some '\n'
  else if c = 'r' then some '\r'
  else if c = 't' then some '\t'
  else none

/-- The code point that four hexadecimal digits name. Something has to follow them. -/
def unit? : Text → Option (CodePoint × Text)
  | a :: b :: c :: d :: e :: rest =>
    match a.hexDigit?, b.hexDigit?, c.hexDigit?, d.hexDigit? with
    | some a, some b, some c, some d =>
      some (CodePoint.ofNat (((a * 16 + b) * 16 + c) * 16 + d), e :: rest)
    | _, _, _, _ => none
  | _ => none

/-- What is left behind a unit is shorter. -/
theorem length_unit? {t rest : Text} {c : CodePoint} (h : unit? t = some (c, rest)) :
    rest.length < t.length := by
  unfold unit? at h
  split at h
  · split at h
    · simp only [Option.some.injEq, Prod.mk.injEq] at h
      obtain ⟨-, rfl⟩ := h
      simp only [List.length_cons]
      omega
    · simp at h
  · simp at h

/-- An escape that names the second half of a surrogate pair. -/
def lowHalf? : Text → Option (CodePoint × Text)
  | backslash :: u :: rest =>
    if backslash = '\\' ∧ u = 'u' then (unit? rest).filter (·.1.isLowSurrogate) else none
  | _ => none

/-- What is left behind a low half is shorter. -/
theorem length_lowHalf? {t rest : Text} {c : CodePoint} (h : lowHalf? t = some (c, rest)) :
    rest.length < t.length := by
  unfold lowHalf? at h
  split at h
  · split at h
    · have := length_unit? (Option.eq_some_of_filter_eq_some h)
      simp only [List.length_cons]
      omega
    · simp at h
  · simp at h

/-- The code point of the escape after `\u`, two escapes joined where they are the
halves of a pair. -/
def unicode? (t : Text) : Option (CodePoint × Text) :=
  match unit? t with
  | none => none
  | some (high, rest) =>
    if high.isHighSurrogate then
      match lowHalf? rest with
      | some (low, rest) => some (CodePoint.ofPair high low, rest)
      | none => some (high, rest)
    else some (high, rest)

/-- What is left behind an escaped character is shorter. -/
theorem length_unicode? {t rest : Text} {c : CodePoint} (h : unicode? t = some (c, rest)) :
    rest.length < t.length := by
  unfold unicode? at h
  split at h
  · simp at h
  · rename_i hu
    have hu := length_unit? hu
    split at h
    · split at h
      · rename_i hl
        have hl := length_lowHalf? hl
        simp only [Option.some.injEq, Prod.mk.injEq] at h
        obtain ⟨-, rfl⟩ := h
        omega
      · simp only [Option.some.injEq, Prod.mk.injEq] at h
        obtain ⟨-, rfl⟩ := h
        exact hu
    · simp only [Option.some.injEq, Prod.mk.injEq] at h
      obtain ⟨-, rfl⟩ := h
      exact hu

/-- Reads a string from behind its opening quote to behind its closing one.
`opening` is the text from the opening quote on, `done` what has been read, last
character first. -/
def readString (opening : Text) : (t : Text) → (done : Text) → Except Refusal (Text × Text)
  | [], _ => .error (.mistake .unterminatedString opening.length)
  | c :: rest, done =>
    if c = '"' then .ok (done.reverse, rest)
    else if c = '\\' then
      match rest with
      | [] => .error (.mistake .unterminatedString opening.length)
      | e :: after =>
        if e = 'u' then
          match _h : unicode? after with
          | some (x, after) => readString opening after (x :: done)
          | none => .error (.mistake .invalidUnicodeEscape (e :: after).length)
        else
          match escape? e with
          | some x => readString opening after (x :: done)
          | none => .error (.mistake .invalidEscape (c :: e :: after).length)
    else if c.val < 0x20 then .error (.mistake .controlCharacter (c :: rest).length)
    else readString opening rest (c :: done)
termination_by t => t.length
decreasing_by
  · have := length_unicode? _h
    simp only [List.length_cons]
    omega
  · simp only [List.length_cons]
    omega
  · simp only [List.length_cons]
    omega

/-- Reading a string takes at least its closing quote. -/
theorem length_readString {opening t done s rest : Text}
    (h : readString opening t done = .ok (s, rest)) : rest.length < t.length := by
  induction hn : t.length using Nat.strongRecOn generalizing t done with
  | _ n ih =>
    subst hn
    unfold readString at h
    split at h
    · simp at h
    · rename_i c t done
      split at h
      · simp only [Except.ok.injEq, Prod.mk.injEq] at h
        obtain ⟨-, rfl⟩ := h
        simp
      · split at h
        · split at h
          · simp at h
          · rename_i e after
            split at h
            · split at h
              · rename_i x after' hu
                have hu := length_unicode? hu
                have := ih _ (by simp only [List.length_cons]; omega) h rfl
                simp only [List.length_cons]
                omega
              · simp at h
            · split at h
              · have := ih _ (by simp only [List.length_cons]; omega) h rfl
                simp only [List.length_cons]
                omega
              · simp at h
        · split at h
          · simp at h
          · have := ih _ (by simp only [List.length_cons]; omega) h rfl
            simp only [List.length_cons]
            omega

/-! ### Numbers -/

/-- A written number: its sign, the digits before and after the point, and the
exponent if there is one. -/
structure Numeral where
  negative : Bool
  whole : Text
  fraction : Text
  exponent : Option Int

/-- The number that digits stand for. -/
def ofDigits (digits : Text) : Nat := digits.foldl (fun n c => 10 * n + (c.val - 48)) 0

/-- The digits before the point: `0`, or digits that do not begin with `0`. -/
def whole? : Text → Option (Text × Text)
  | [] => none
  | c :: rest =>
    if c = '0' then some ([c], rest)
    else if c.isAsciiDigit then
      some (c :: rest.takeWhile CodePoint.isAsciiDigit, rest.dropWhile CodePoint.isAsciiDigit)
    else none

/-- A point and at least one digit, or nothing. -/
def fraction (t : Text) : Text × Text :=
  match t with
  | point :: d :: rest =>
    if point = '.' ∧ d.isAsciiDigit then
      (d :: rest.takeWhile CodePoint.isAsciiDigit, rest.dropWhile CodePoint.isAsciiDigit)
    else ([], t)
  | _ => ([], t)

/-- Whether a minus sign comes first, and the text without the sign `+` or `-`. -/
def sign : Text → Bool × Text
  | [] => (false, [])
  | c :: rest =>
    if c = '-' then (true, rest) else if c = '+' then (false, rest) else (false, c :: rest)

/-- The letter `e`, a sign or none, and at least one digit; or nothing. -/
def exponent (t : Text) : Option Int × Text :=
  match t with
  | [] => (none, t)
  | e :: signed =>
    let (negative, digits) := sign signed
    let shown := digits.takeWhile CodePoint.isAsciiDigit
    if (e = 'e' ∨ e = 'E') ∧ shown ≠ [] then
      let n : Int := ofDigits shown
      (some (if negative then -n else n), digits.dropWhile CodePoint.isAsciiDigit)
    else (none, t)

/-- The longest beginning of the text that is a number. -/
def numeral? (t : Text) : Option (Numeral × Text) :=
  let negative := t.head? = some (CodePoint.ofChar '-')
  match whole? (if negative then t.drop 1 else t) with
  | none => none
  | some (whole, rest) =>
    let (fraction, rest) := fraction rest
    let (exponent, rest) := exponent rest
    some (⟨negative, whole, fraction, exponent⟩, rest)

/-- Dropping characters makes no text longer. -/
theorem length_dropWhile_le (p : CodePoint → Bool) (t : Text) :
    (t.dropWhile p).length ≤ t.length := (List.dropWhile_suffix p).length_le

/-- What is left behind the whole part of a number is shorter. -/
theorem length_whole? {t whole rest : Text} (h : whole? t = some (whole, rest)) :
    rest.length < t.length := by
  unfold whole? at h
  split at h
  · simp at h
  · rename_i c tail
    split at h
    · simp only [Option.some.injEq, Prod.mk.injEq] at h
      obtain ⟨-, rfl⟩ := h
      simp
    · split at h
      · simp only [Option.some.injEq, Prod.mk.injEq] at h
        obtain ⟨-, rfl⟩ := h
        have := length_dropWhile_le CodePoint.isAsciiDigit tail
        simp only [List.length_cons]
        omega
      · simp at h

/-- What is left behind a fraction is no longer. -/
theorem length_fraction (t : Text) : (fraction t).2.length ≤ t.length := by
  unfold fraction
  split
  · rename_i point d rest
    split
    · have := length_dropWhile_le CodePoint.isAsciiDigit rest
      simp only [List.length_cons]
      omega
    · simp
  · simp

/-- What is left behind a sign is no longer. -/
theorem length_sign (t : Text) : (sign t).2.length ≤ t.length := by
  unfold sign
  split
  · simp
  · split
    · simp
    · split <;> simp

/-- What is left behind an exponent is no longer. -/
theorem length_exponent (t : Text) : (exponent t).2.length ≤ t.length := by
  unfold exponent
  split
  · simp
  · rename_i e signed
    simp only
    split
    · have h1 := length_dropWhile_le CodePoint.isAsciiDigit (sign signed).2
      have h2 := length_sign signed
      simp only [List.length_cons]
      omega
    · simp

/-- Reading a number takes at least one digit. -/
theorem length_numeral? {t rest : Text} {n : Numeral} (h : numeral? t = some (n, rest)) :
    rest.length < t.length := by
  unfold numeral? at h
  simp only at h
  split at h
  · simp at h
  · rename_i whole rest' hw
    have hw := length_whole? hw
    have hf := length_fraction rest'
    have he := length_exponent (fraction rest').2
    simp only [Option.some.injEq, Prod.mk.injEq] at h
    obtain ⟨-, rfl⟩ := h
    have : (if t.head? = some (CodePoint.ofChar '-') then t.drop 1 else t).length ≤ t.length := by
      split
      · simp
      · simp
    omega

/-- The most digits that an integer may have. -/
def digitLimit : Nat := 4300

/-- An integer from its sign and its digits. -/
def integer? (negative : Bool) (digits : Text) : Except Refusal Int :=
  if digitLimit < digits.length then .error (.tooManyDigits digits.length)
  else
    let n : Int := ofDigits digits
    .ok (if negative then -n else n)

/-- The floating point number that is written. -/
def Numeral.toBinary64 (n : Numeral) : Binary64 :=
  Binary64.ofDecimal n.negative (ofDigits (n.whole ++ n.fraction))
    (n.exponent.getD 0 - n.fraction.length)

end Json
end ApiGuide
