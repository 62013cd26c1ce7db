/-
# Contexts

`resolve_context`, and `dot`, `call` and `word`, in section 3.3 of the specification.

What surrounds a cursor in one line of text, found by looking at characters
alone:

| context | the text left of the cursor | holds |
| --- | --- | --- |
| `dot` | ends with a word, a dot, blanks | the word |
| `call` | holds a word, a dot, a word, blanks, an opening bracket | both words of the last such place, the commas after it |
| `word` | touches a word, to the left or the right | the word, and the word before the last dot |

A cursor is any integer; one before the line counts as its start, one behind the
line as its end.
-/

import ApiGuide.Text.Search
import ApiGuide.Text.Split

namespace ApiGuide

/-- What a cursor stands at. -/
inductive Context where
  /-- After the dot that follows a receiver. -/
  | dot (receiver : Text)
  /-- In the argument list of a method of a receiver, at the argument numbered from zero. -/
  | call (receiver method : Text) (active : Int)
  /-- On a word, with the receiver that it may belong to. -/
  | word (word : Text) (receiver? : Option Text)
  /-- At nothing of note. -/
  | nothing
deriving DecidableEq

namespace Context

/-- The number of characters of the line left of the cursor. -/
def clamp (line : Text) (cursor : Int) : Nat := min cursor.toNat line.length

/-- The part of the line left of the cursor. -/
def before (line : Text) (cursor : Int) : Text := line.take (clamp line cursor)

/-- Whether a text is a dot and blanks. -/
def isDotAndBlanks : Text → Bool
  | [] => false
  | c :: rest => decide (c = CodePoint.ofChar '.') && rest.all CodePoint.isBlank

/-- The receiver that a text ends with: a word, a dot, and blanks. -/
def dotReceiver? (left : Text) : Option Text := left.searchWord? isDotAndBlanks

/-- The context of a cursor after a receiver and a dot. -/
def dotAt (line : Text) (cursor : Int) : Context :=
  match dotReceiver? (before line cursor) with
  | some receiver => .dot receiver
  | none => .nothing

/-- The beginning of a call: the receiver, the method, and what stands behind the
opening bracket. -/
structure Opening where
  receiver : Text
  method : Text
  behind : Text
deriving DecidableEq

/-- The call that begins where a text begins: a word, a dot, a word, blanks and an
opening bracket. -/
def opening? (t : Text) : Option Opening :=
  match t.dropWhile CodePoint.isWord with
  | [] => none
  | c :: rest =>
    match Text.trimStart (rest.dropWhile CodePoint.isWord) with
    | [] => none
    | d :: behind =>
      if c = '.' ∧ d = '(' ∧ Text.leadingWord t ≠ [] ∧ Text.leadingWord rest ≠ [] then
        some ⟨Text.leadingWord t, Text.leadingWord rest, behind⟩
      else none

/-- What stands behind an opening is shorter than the text that it was found in. -/
theorem length_opening? {t : Text} {o : Opening} (h : opening? t = some o) :
    o.behind.length < t.length := by
  unfold opening? at h
  split at h
  · simp at h
  · rename_i c rest hdot
    split at h
    · simp at h
    · rename_i d behind hbracket
      split at h
      · obtain rfl := Option.some.inj h
        have h₁ := (List.dropWhile_sublist (l := t) CodePoint.isWord).length_le
        have h₂ := (List.dropWhile_sublist (l := rest) CodePoint.isWord).length_le
        have h₃ : (Text.trimStart (rest.dropWhile CodePoint.isWord)).length ≤
            (rest.dropWhile CodePoint.isWord).length :=
          (List.dropWhile_sublist CodePoint.isBlank).length_le
        rw [hdot, List.length_cons] at h₁
        rw [hbracket, List.length_cons] at h₃
        show behind.length < t.length
        omega
      · simp at h

/-- The calls that begin in a text, searched from the left: each search goes on
behind the bracket of the call found before. -/
def openings : Text → List Opening
  | [] => []
  | c :: rest =>
    match _h : opening? (c :: rest) with
    | some o => o :: openings o.behind
    | none => openings rest
termination_by t => t.length
decreasing_by
  · exact length_opening? ‹_›
  · simp

/-- The context of a cursor in the argument list of the last call that begins before it. -/
def callAt (line : Text) (cursor : Int) : Context :=
  match (openings (before line cursor)).getLast? with
  | some o => .call o.receiver o.method (o.behind.count (CodePoint.ofChar ','))
  | none => .nothing

/-- The receiver that a word at position `k` may belong to: the word that ends,
but for blanks, at the last dot up to that position. -/
def receiverGuess? (line : Text) (k : Nat) : Option Text :=
  (Text.beforeLast? '.' (line.take (k + 1))).bind
    (Text.searchWord? (List.all · CodePoint.isBlank))

/-- The context of a cursor on a word, its ends included. -/
def wordAt (line : Text) (cursor : Int) : Context :=
  match Text.wordOver? (clamp line cursor) (Text.words 0 line) with
  | some found => .word found (receiverGuess? line (clamp line cursor))
  | none => .nothing

/-- The other context, where the first is nothing of note. -/
def orElse (first : Context) (second : Context) : Context :=
  if first = .nothing then second else first

/-- The context of a cursor: a dot goes before a call, a call before a word. -/
def around (line : Text) (cursor : Int) : Context :=
  (dotAt line cursor).orElse ((callAt line cursor).orElse (wordAt line cursor))

example : dotAt "x = Actor. " 11 = .dot "Actor" ∧
    callAt "w.spawn(a, b" 12 = .call "w" "spawn" 1 ∧
    wordAt "w.spawn" 4 = .word "spawn" (some ↑"w") ∧
    around "" 0 = .nothing := by decide +kernel

end Context
end ApiGuide
