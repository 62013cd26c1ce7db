/-
# Code points and texts

A text is a list of code points. The surrogates `U+D800` to `U+DFFF` are code
points like any other: an escape in a JSON string may name one of them alone.
Every position, length and column of this library counts code points, and texts
are ordered by comparing code points from the left.
-/

namespace ApiGuide

/-- A code point: a number below `0x110000`. -/
structure CodePoint where
  val : Nat
  valid : val < 0x110000
deriving DecidableEq

namespace CodePoint

/-- A character is determined by its number. -/
theorem ext_val {a b : CodePoint} (h : a.val = b.val) : a = b := by
  cases a; cases b; simp_all

/-- The code point of a character. -/
def ofChar (c : Char) : CodePoint :=
  ⟨c.toNat, by
    have h := c.valid
    unfold UInt32.isValidChar Nat.isValidChar at h
    simp only [Char.toNat]
    omega⟩

instance : Coe Char CodePoint := ⟨ofChar⟩

/-- The line feed. -/
def lineFeed : CodePoint := ofChar '\n'

/-- The carriage return. -/
def carriageReturn : CodePoint := ofChar '\x0d'

/-- Characters stay distinct as code points. -/
@[simp] theorem ofChar_inj {a b : Char} : ofChar a = ofChar b ↔ a = b := by
  constructor
  · intro h
    have h := congrArg CodePoint.val h
    exact Char.ext (UInt32.toNat_inj.1 h)
  · rintro rfl; rfl

/-- The code point of a number, the replacement character for one out of range. -/
def ofNat (n : Nat) : CodePoint := if h : n < 0x110000 then ⟨n, h⟩ else ⟨0xFFFD, by decide⟩

instance : Inhabited CodePoint := ⟨ofNat 0⟩

/-- Code points are ordered by number. -/
instance : LT CodePoint := ⟨fun a b => a.val < b.val⟩

instance : LE CodePoint := ⟨fun a b => a.val ≤ b.val⟩

instance (a b : CodePoint) : Decidable (a < b) := inferInstanceAs (Decidable (a.val < b.val))

instance (a b : CodePoint) : Decidable (a ≤ b) := inferInstanceAs (Decidable (a.val ≤ b.val))

/-- Whether `c` is a surrogate. -/
def isSurrogate (c : CodePoint) : Bool := decide (0xD800 ≤ c.val ∧ c.val ≤ 0xDFFF)

/-- Whether `c` is the first half of a surrogate pair. -/
def isHighSurrogate (c : CodePoint) : Bool := decide (0xD800 ≤ c.val ∧ c.val ≤ 0xDBFF)

/-- Whether `c` is the second half of a surrogate pair. -/
def isLowSurrogate (c : CodePoint) : Bool := decide (0xDC00 ≤ c.val ∧ c.val ≤ 0xDFFF)

/-- The code point that a surrogate pair stands for. -/
def ofPair (high low : CodePoint) : CodePoint :=
  ofNat (0x10000 + (high.val - 0xD800) * 0x400 + (low.val - 0xDC00))

/-- The small letter of a capital `A` to `Z`; all other code points are kept. -/
def toAsciiLower (c : CodePoint) : CodePoint :=
  if 65 ≤ c.val ∧ c.val ≤ 90 then ofNat (c.val + 32) else c

end CodePoint

/-- A text: a sequence of code points. -/
abbrev Text := List CodePoint

instance : LawfulBEq Text := inferInstance

namespace Text

/-- The code points of a string. -/
def ofString (s : String) : Text := s.toList.map CodePoint.ofChar

instance : Coe String Text := ⟨ofString⟩

/-- The text with its capitals `A` to `Z` made small. -/
def toAsciiLower (t : Text) : Text := t.map CodePoint.toAsciiLower

/-- The text, or another one in place of the empty text. -/
def orElse (t other : Text) : Text := if t = [] then other else t

/-- Whether `s` comes before `t` or equals it, by code points from the left. -/
def atMost (s t : Text) : Bool := decide (s ≤ t)

example : atMost "A" "a" ∧ atMost "a" "aa" ∧ ¬ atMost "b" "ab" := by decide

end Text

end ApiGuide
