/-
# Reading JSON

A document is one value with blanks around it; only space, tab, line feed and
carriage return are blank here. Beside the usual literals the words `NaN`,
`Infinity` and `-Infinity` are numbers.

Reading goes from left to right and ends at the first thing that is wrong:

| found | refusal |
| --- | --- |
| no value where one has to be, also after a comma in an array | expecting value |
| no quote after `{`, or after a comma in an object | expecting name |
| a value inside so many containers that the limit is passed | too deep, named for the container that passes it |
| an integer of more than 4300 digits | too many digits |

A reader of one value gives the rest of the text with a proof that it is shorter,
so the loops over elements and members end. How deep containers are entered is up to
the caller.
-/

import ApiGuide.Json.Basic
import ApiGuide.Json.Lexeme

namespace ApiGuide
namespace Json

/-- A value read from the front of a text, and the shorter rest. -/
structure Read (t : Text) where
  value : Json
  rest : Text
  shorter : rest.length < t.length

/-- Whether `c` may stand between the tokens of a document. -/
def isGap (c : CodePoint) : Bool :=
  decide (c.val = 32 ∨ c.val = 9 ∨ c.val = 10 ∨ c.val = 13)

/-- The text without the blanks before it. -/
def skipGap (t : Text) : Text := t.dropWhile isGap

/-- What is left behind a gap is no longer. -/
theorem length_skipGap (t : Text) : (skipGap t).length ≤ t.length :=
  length_dropWhile_le isGap t

/-- The text after a word that it begins with. -/
def afterWord? : (word t : Text) → Option Text
  | [], t => some t
  | _ :: _, [] => none
  | w :: word, c :: t => if w = c then afterWord? word t else none

/-- What is left behind a word is shorter by the word. -/
theorem length_afterWord? {word t rest : Text} (h : afterWord? word t = some rest) :
    t.length = word.length + rest.length := by
  induction word generalizing t with
  | nil => simp only [afterWord?, Option.some.injEq] at h; simp [h]
  | cons w word ih =>
    cases t with
    | nil => simp [afterWord?] at h
    | cons c t =>
      unfold afterWord? at h
      split at h
      · have := ih h
        simp only [List.length_cons]
        omega
      · simp at h

/-- The words that are values. -/
def words : List (Text × Json) :=
  [("null", .null), ("true", .bool true), ("false", .bool false), ("NaN", .float .nan),
    ("Infinity", .float (.infinite false)), ("-Infinity", .float (.infinite true))]

/-- The value of the first of some words that the text begins with. -/
def readWord? (t : Text) : List (Text × Json) → Option (Json × Text)
  | [] => none
  | ([], _) :: others => readWord? t others
  | (w :: word, value) :: others =>
    match afterWord? (w :: word) t with
    | some rest => some (value, rest)
    | none => readWord? t others

/-- What is left behind a value that is a word is shorter. -/
theorem length_readWord? {t rest : Text} {value : Json} {candidates : List (Text × Json)}
    (h : readWord? t candidates = some (value, rest)) : rest.length < t.length := by
  induction candidates with
  | nil => simp [readWord?] at h
  | cons candidate others ih =>
    rcases candidate with ⟨_ | ⟨w, word⟩, v⟩
    · exact ih h
    · unfold readWord? at h
      split at h
      · rename_i hw
        have hw := length_afterWord? hw
        simp only [Option.some.injEq, Prod.mk.injEq] at h
        obtain ⟨-, rfl⟩ := h
        simp only [List.length_cons] at hw
        omega
      · exact ih h

/-- Reads a value that is neither a string nor a container. -/
def readPlain (t : Text) : Except Refusal (Read t) :=
  match hw : readWord? t words with
  | some (value, rest) => .ok ⟨value, rest, length_readWord? hw⟩
  | none =>
    match hn : numeral? t with
    | none => .error (.mistake .expectingValue t.length)
    | some (n, rest) =>
      if n.fraction = [] ∧ n.exponent.isNone then
        match integer? n.negative n.whole with
        | .ok i => .ok ⟨.integer i, rest, length_numeral? hn⟩
        | .error e => .error e
      else .ok ⟨.float n.toBinary64, rest, length_numeral? hn⟩

/-- Reads the elements of an array from the first one to behind the closing bracket. -/
def readElements (item : (t : Text) → Except Refusal (Read t)) (t : Text) (done : List Json) :
    Except Refusal (List Json × Text) :=
  match item t with
  | .error e => .error e
  | .ok read =>
    match _h : skipGap read.rest with
    | [] => .error (.mistake .expectingComma 0)
    | c :: rest =>
      if c = ']' then .ok ((read.value :: done).reverse, rest)
      else if c = ',' then readElements item (skipGap rest) (read.value :: done)
      else .error (.mistake .expectingComma (c :: rest).length)
termination_by t.length
decreasing_by
  have h1 := read.shorter
  have h2 := length_skipGap read.rest
  have h3 := length_skipGap rest
  rw [_h] at h2
  simp only [List.length_cons] at h2
  omega

/-- What is left behind the items of an array is shorter. -/
theorem length_readElements {item : (t : Text) → Except Refusal (Read t)} {t rest : Text}
    {done items : List Json} (h : readElements item t done = .ok (items, rest)) :
    rest.length < t.length := by
  induction hn : t.length using Nat.strongRecOn generalizing t done with
  | _ n ih =>
    subst hn
    unfold readElements at h
    split at h
    · simp at h
    · rename_i read _
      have h1 := read.shorter
      have h2 := length_skipGap read.rest
      split at h
      · simp at h
      · rename_i c after hs
        rw [hs] at h2
        simp only [List.length_cons] at h2
        split at h
        · simp only [Except.ok.injEq, Prod.mk.injEq] at h
          obtain ⟨-, rfl⟩ := h
          omega
        · split at h
          · have h3 := length_skipGap after
            have := ih _ (by omega) h rfl
            omega
          · simp at h

/-- Reads a name and the colon behind it, with the blanks around the colon. -/
def readName (t : Text) : Except Refusal (Text × Text) :=
  match t with
  | [] => .error (.mistake .expectingName 0)
  | quote :: inside =>
    if quote = '"' then
      match readString t inside [] with
      | .error e => .error e
      | .ok (name, rest) =>
        match skipGap rest with
        | [] => .error (.mistake .expectingColon 0)
        | c :: rest =>
          if c = ':' then .ok (name, skipGap rest)
          else .error (.mistake .expectingColon (c :: rest).length)
    else .error (.mistake .expectingName t.length)

/-- What is left behind a name is shorter. -/
theorem length_readName {t name rest : Text} (h : readName t = .ok (name, rest)) :
    rest.length < t.length := by
  unfold readName at h
  split at h
  · simp at h
  · split at h
    · split at h
      · simp at h
      · rename_i rest' hr
        have h1 := length_readString hr
        have h2 := length_skipGap rest'
        split at h
        · simp at h
        · rename_i c after hs
          rw [hs] at h2
          split at h
          · simp only [Except.ok.injEq, Prod.mk.injEq] at h
            obtain ⟨-, rfl⟩ := h
            have h3 := length_skipGap after
            simp only [List.length_cons] at h2 ⊢
            omega
          · simp at h
    · simp at h

/-- Reads the members of an object from the first one to behind the closing brace. -/
def readMembers (item : (t : Text) → Except Refusal (Read t)) (t : Text)
    (done : List (Text × Json)) : Except Refusal (List (Text × Json) × Text) :=
  match _hn : readName t with
  | .error e => .error e
  | .ok (name, start) =>
    match item start with
    | .error e => .error e
    | .ok read =>
      match _hs : skipGap read.rest with
      | [] => .error (.mistake .expectingComma 0)
      | c :: rest =>
        if c = '\x7d' then .ok (((name, read.value) :: done).reverse, rest)
        else if c = ',' then readMembers item (skipGap rest) ((name, read.value) :: done)
        else .error (.mistake .expectingComma (c :: rest).length)
termination_by t.length
decreasing_by
  have h0 := length_readName _hn
  have h1 := read.shorter
  have h2 := length_skipGap read.rest
  have h3 := length_skipGap rest
  rw [_hs] at h2
  simp only [List.length_cons] at h2
  omega

/-- What is left behind the members of an object is shorter. -/
theorem length_readMembers {item : (t : Text) → Except Refusal (Read t)} {t rest : Text}
    {done entries : List (Text × Json)} (h : readMembers item t done = .ok (entries, rest)) :
    rest.length < t.length := by
  induction hn : t.length using Nat.strongRecOn generalizing t done with
  | _ n ih =>
    subst hn
    unfold readMembers at h
    split at h
    · simp at h
    · rename_i name start hname
      have h0 := length_readName hname
      split at h
      · simp at h
      · rename_i read _
        have h1 := read.shorter
        have h2 := length_skipGap read.rest
        split at h
        · simp at h
        · rename_i c after hs
          rw [hs] at h2
          simp only [List.length_cons] at h2
          split at h
          · simp only [Except.ok.injEq, Prod.mk.injEq] at h
            obtain ⟨-, rfl⟩ := h
            omega
          · split at h
            · have h3 := length_skipGap after
              have := ih _ (by omega) h rfl
              omega
            · simp at h

/-- Reads an array from behind its opening bracket. -/
def readArray (item : (t : Text) → Except Refusal (Read t)) (inside : Text) :
    Except Refusal (Read (CodePoint.ofChar '[' :: inside)) :=
  have hs := length_skipGap inside
  match hg : skipGap inside with
  | [] => .error (.mistake .expectingValue 0)
  | c :: rest =>
    if c = ']' then .ok ⟨.array [], rest, by
      rw [hg] at hs; simp only [List.length_cons] at hs ⊢; omega⟩
    else
      match hr : readElements item (c :: rest) [] with
      | .error e => .error e
      | .ok (items, after) => .ok ⟨.array items, after, by
          have := length_readElements hr
          rw [hg] at hs; simp only [List.length_cons] at *; omega⟩

/-- Reads an object from behind its opening brace. -/
def readObject (item : (t : Text) → Except Refusal (Read t)) (inside : Text) :
    Except Refusal (Read (CodePoint.ofChar '\x7b' :: inside)) :=
  have hs := length_skipGap inside
  match hg : skipGap inside with
  | [] => .error (.mistake .expectingName 0)
  | c :: rest =>
    if c = '\x7d' then .ok ⟨.object [], rest, by
      rw [hg] at hs; simp only [List.length_cons] at hs ⊢; omega⟩
    else
      match hr : readMembers item (c :: rest) [] with
      | .error e => .error e
      | .ok (entries, after) => .ok ⟨.object entries, after, by
          have := length_readMembers hr
          rw [hg] at hs; simp only [List.length_cons] at *; omega⟩

/-- Reads a value that holds containers at most `depth` deep. -/
def readValue (depth : Nat) (t : Text) : Except Refusal (Read t) :=
  match t with
  | [] => .error (.mistake .expectingValue 0)
  | c :: inside =>
    if c = '"' then
      match h : readString (c :: inside) inside [] with
      | .error e => .error e
      | .ok (s, rest) => .ok ⟨.string s, rest, by
          have := length_readString h
          simp only [List.length_cons]; omega⟩
    else if hb : c = CodePoint.ofChar '[' then
      match depth with
      | 0 => .error (.tooDeep .array)
      | depth + 1 => hb ▸ readArray (readValue depth) inside
    else if hb : c = CodePoint.ofChar '\x7b' then
      match depth with
      | 0 => .error (.tooDeep .object)
      | depth + 1 => hb ▸ readObject (readValue depth) inside
    else readPlain (c :: inside)

/-- The number of containers that may stand inside each other where nothing else is said. -/
def usualDepth : Nat := 1000

/-- Reads a document: one value, with nothing but blanks around it. At most `depth`
containers may stand inside each other. -/
def read (t : Text) (depth : Nat := usualDepth) : Except Refusal Json :=
  match readValue depth (skipGap t) with
  | .error e => .error e
  | .ok ⟨value, rest, _⟩ =>
    match skipGap rest with
    | [] => .ok value
    | extra => .error (.mistake .extraData extra.length)

end Json
end ApiGuide
