/-
# What a snippet is read as

Whoever inserts a snippet reads it from the left (`Snippet.read`):

| text | read as |
| --- | --- |
| `$`, an opening brace, digits, `:`, a text, a closing brace | a placeholder |
| any other character | itself |

In a placeholder a backslash escapes the character behind it, and the first closing brace
that is not escaped ends it. The snippet of a method is written without regard to this, so
it is read as the call with a placeholder for each parameter if and only if the name of
every parameter *fits*: there is no unescaped closing brace in it, and it does not end in
the middle of an escape (`CompletionItem.ofMethod_snippet`). The names of parameters with
an annotation are words, and these always fit.
-/

import ApiGuide.Payload.Completion
import ApiGuide.Proofs.Signature.WellFormed
import ApiGuide.Proofs.Text.Numeral

namespace ApiGuide
namespace Payload

/-- A part of a snippet: a character to insert, or a numbered placeholder. -/
inductive SnippetPart where
  | literal (c : CodePoint)
  | hole (number : Nat) (shown : Text)
deriving DecidableEq

namespace Snippet

variable {t shown behind : Text} {escaped : Bool} {c : CodePoint}

/-! ### Reading -/

/-- Whether the character behind another one is escaped: it is if the other one is a
backslash that is not escaped itself. -/
def escapes (escaped : Bool) (c : CodePoint) : Bool :=
  !escaped && decide (c = CodePoint.ofChar '\\')

/-- The text up to the first closing brace that is not escaped, and what stands behind
the brace. -/
def close? : (escaped : Bool) → Text → Option (Text × Text)
  | _, [] => none
  | escaped, c :: rest =>
    if escaped = false ∧ c = CodePoint.ofChar '\x7d' then some ([], rest)
    else (close? (escapes escaped c) rest).map fun (shown, behind) => (c :: shown, behind)

/-- The placeholder that a text begins with, and what stands behind it. -/
def hole? : Text → Option (Nat × Text × Text)
  | dollar :: brace :: rest =>
    match rest.dropWhile CodePoint.isAsciiDigit with
    | [] => none
    | colon :: body =>
      let digits := rest.takeWhile CodePoint.isAsciiDigit
      if dollar = '$' ∧ brace = '\x7b' ∧ colon = ':' ∧ digits ≠ [] then
        (close? false body).map fun (shown, behind) => (Json.ofDigits digits, shown, behind)
      else none
  | _ => none

/-- What is left behind the end of a placeholder is shorter. -/
theorem length_close? (h : close? escaped t = some (shown, behind)) :
    behind.length < t.length := by
  induction t generalizing escaped shown with
  | nil => simp [close?] at h
  | cons c t ih =>
    rw [List.length_cons]
    unfold close? at h
    split at h
    · obtain ⟨-, rfl⟩ := Prod.mk.inj (Option.some.inj h)
      exact Nat.lt_succ_self _
    · obtain ⟨⟨shown', behind'⟩, hclose, hpair⟩ := Option.map_eq_some_iff.1 h
      obtain ⟨-, rfl⟩ := Prod.mk.inj hpair
      exact Nat.lt_succ_of_lt (ih hclose)

/-- What is left behind a placeholder is shorter. -/
theorem length_hole? {number : Nat} (h : hole? t = some (number, shown, behind)) :
    behind.length < t.length := by
  unfold hole? at h
  split at h
  · rename_i dollar brace rest
    split at h
    · simp at h
    · rename_i colon body hbody
      simp only at h
      split at h
      · obtain ⟨⟨shown', behind'⟩, hclose, hpair⟩ := Option.map_eq_some_iff.1 h
        obtain ⟨-, hpair⟩ := Prod.mk.inj hpair
        obtain ⟨-, rfl⟩ := Prod.mk.inj hpair
        have hclosed : behind'.length < body.length := length_close? hclose
        have hdrop := (List.dropWhile_sublist (l := rest) CodePoint.isAsciiDigit).length_le
        rw [hbody, List.length_cons] at hdrop
        show behind'.length < rest.length + 1 + 1
        omega
      · simp at h
  · simp at h

/-- The parts of a snippet, from the left. -/
def read : Text → List SnippetPart
  | [] => []
  | c :: rest =>
    match _h : hole? (c :: rest) with
    | some (number, shown, behind) => .hole number shown :: read behind
    | none => .literal c :: read rest
termination_by t => t.length
decreasing_by
  · exact length_hole? ‹_›
  · simp

/-- What is inserted: every placeholder as the text that it shows. -/
def expand : List SnippetPart → Text
  | [] => []
  | .literal c :: rest => c :: expand rest
  | .hole _ shown :: rest => shown ++ expand rest

/-! ### A call -/

/-- A text that is inserted as it is. -/
def literals (t : Text) : List SnippetPart := t.map .literal

/-- Placeholders that show some texts, numbered on from a number, with a comma and a
blank between neighbours. -/
def holes : (number : Nat) → List Text → List SnippetPart
  | _, [] => []
  | number, [shown] => [.hole number shown]
  | number, shown :: next :: rest =>
    .hole number shown :: (literals ", " ++ holes (number + 1) (next :: rest))

/-- A call with a placeholder for each name. -/
def call (method : Text) (names : List Text) : List SnippetPart :=
  literals (method ++ "(") ++ (holes 1 names ++ literals ")")

/-- Parts are expanded one after the other. -/
theorem expand_append (parts parts' : List SnippetPart) :
    expand (parts ++ parts') = expand parts ++ expand parts' := by
  induction parts with
  | nil => rfl
  | cons part parts ih =>
    cases part with
    | literal c => rw [List.cons_append, expand, expand, ih, List.cons_append]
    | hole number shown => rw [List.cons_append, expand, expand, ih, List.append_assoc]

/-- Literal characters are expanded to themselves. -/
theorem expand_literals (t : Text) : expand (literals t) = t := by
  induction t with
  | nil => rfl
  | cons c t ih => exact congrArg (c :: ·) ih

/-- Placeholders are expanded to their names, with commas between them. -/
theorem expand_holes (number : Nat) (names : List Text) :
    expand (holes number names) = Text.join ", " names := by
  induction names generalizing number with
  | nil => rfl
  | cons name names ih =>
    cases names with
    | nil => exact List.append_nil name
    | cons next names =>
      rw [holes, expand, expand_append, expand_literals, ih, Text.join, List.append_assoc]

/-- **The call that is inserted** has the names for its arguments. -/
theorem expand_call (method : Text) (names : List Text) :
    expand (call method names) = method ++ "(" ++ Text.join ", " names ++ ")" := by
  unfold call
  rw [expand_append, expand_append, expand_literals, expand_literals, expand_holes,
    List.append_assoc _ (Text.join _ _)]

/-! ### Texts that fit into a placeholder -/

/-- Whether what follows a text is escaped, if its first character is or is not. -/
def escapesBehind (escaped : Bool) (t : Text) : Bool := t.foldl escapes escaped

/-- Each closing brace in the text is escaped, and one behind it is not. -/
structure FitsFrom (escaped : Bool) (t : Text) : Prop where
  inside : ∀ lead rest, t = lead ++ CodePoint.ofChar '\x7d' :: rest →
    escapesBehind escaped lead = true
  behind : escapesBehind escaped t = false

/-- A text that may stand in a placeholder as it is. -/
abbrev Fits (t : Text) : Prop := FitsFrom false t

/-- The end of a name fits unless a backslash stands before it. -/
theorem fitsFrom_nil_iff : FitsFrom escaped [] ↔ escaped = false :=
  ⟨fun h => h.behind, fun h => ⟨fun lead rest hnil => by simp at hnil, h⟩⟩

/-- **A name fits in a placeholder** if no brace in it would end the placeholder, which a brace
does but behind a backslash. -/
theorem fitsFrom_cons_iff : FitsFrom escaped (c :: t) ↔
    ¬ (escaped = false ∧ c = CodePoint.ofChar '\x7d') ∧ FitsFrom (escapes escaped c) t := by
  constructor
  · intro h
    refine ⟨?_, fun lead rest ht => h.inside (c :: lead) rest (congrArg (c :: ·) ht), h.behind⟩
    rintro ⟨rfl, rfl⟩
    exact absurd (h.inside [] t rfl) Bool.false_ne_true
  · rintro ⟨hc, h⟩
    refine ⟨fun lead rest ht => ?_, h.behind⟩
    cases lead with
    | nil =>
      obtain ⟨rfl, -⟩ := List.cons.inj ht
      exact Bool.of_not_eq_false fun hfalse => hc ⟨hfalse, rfl⟩
    | cons d lead =>
      rw [List.cons_append] at ht
      obtain ⟨rfl, hrest⟩ := List.cons.inj ht
      exact h.inside lead rest hrest

/-- A text without closing braces and backslashes fits. -/
theorem fits_of_not_mem (hbrace : CodePoint.ofChar '\x7d' ∉ t)
    (hescape : CodePoint.ofChar '\\' ∉ t) : Fits t := by
  induction t with
  | nil => exact fitsFrom_nil_iff.2 rfl
  | cons c t ih =>
    rw [List.mem_cons, not_or] at hbrace hescape
    have hc : escapes false c = false := by simp [escapes, Ne.symm hescape.1]
    refine fitsFrom_cons_iff.2 ⟨fun h => hbrace.1 h.2.symm, ?_⟩
    rw [hc]
    exact ih hbrace.2 hescape.2

/-- **Closing** takes the text that fits up to a closing brace. -/
theorem close?_eq_some_iff : close? escaped t = some (shown, behind) ↔
    t = shown ++ CodePoint.ofChar '\x7d' :: behind ∧ FitsFrom escaped shown := by
  induction t generalizing escaped shown with
  | nil => simp [close?]
  | cons c t ih =>
    unfold close?
    by_cases hclose : escaped = false ∧ c = CodePoint.ofChar '\x7d'
    -- This character closes, so the text that is shown is empty: one that goes on with the
    -- character would not fit.
    · rw [if_pos hclose]
      cases shown with
      | nil => simp [fitsFrom_nil_iff, hclose]
      | cons d shown =>
        rw [fitsFrom_cons_iff, List.cons_append]
        simp only [Option.some.injEq, Prod.mk.injEq, List.cons.injEq]
        refine ⟨fun h => by simp at h, ?_⟩
        rintro ⟨⟨rfl, -⟩, hno, -⟩
        exact absurd hclose hno
    -- This character belongs to the text that is shown.
    · rw [if_neg hclose]
      cases shown with
      | nil =>
        rw [fitsFrom_nil_iff]
        refine ⟨fun h => by simp at h, ?_⟩
        rintro ⟨ht, hescaped⟩
        exact absurd ⟨hescaped, (List.cons.inj ht).1⟩ hclose
      | cons d shown =>
        rw [fitsFrom_cons_iff, List.cons_append, List.cons.injEq]
        constructor
        · intro h
          obtain ⟨⟨shown', behind'⟩, hrest, hpair⟩ := Option.map_eq_some_iff.1 h
          obtain ⟨hcons, rfl⟩ := Prod.mk.inj hpair
          obtain ⟨rfl, rfl⟩ := List.cons.inj hcons
          obtain ⟨ht, hfits⟩ := ih.1 hrest
          exact ⟨⟨rfl, ht⟩, hclose, hfits⟩
        · rintro ⟨⟨rfl, ht⟩, -, hfits⟩
          rw [ih.2 ⟨ht, hfits⟩]
          rfl

/-! ### What is written is read -/

/-- A character that begins no placeholder stands for itself. -/
theorem read_of_hole?_eq_none (h : hole? (c :: t) = none) :
    read (c :: t) = .literal c :: read t := by
  rw [read.eq_def]
  simp only
  split
  · rename_i number shown behind hhole
    exact absurd (h.symm.trans hhole) (Option.some_ne_none _).symm
  · rfl

/-- A placeholder is read before what is behind it. -/
theorem read_of_hole?_eq_some {number : Nat} (h : hole? (c :: t) = some (number, shown, behind)) :
    read (c :: t) = .hole number shown :: read behind := by
  rw [read.eq_def]
  simp only
  split
  · rename_i hhole
    obtain ⟨rfl, rfl, rfl⟩ : _ ∧ _ ∧ _ := by simpa using h.symm.trans hhole
    rfl
  · rename_i hhole
    exact absurd (h.symm.trans hhole) (Option.some_ne_none _)

/-- **A placeholder is read** where a text begins with one, and nowhere else. -/
theorem read_eq_hole_cons_iff {number : Nat} {parts : List SnippetPart} :
    read t = .hole number shown :: parts ↔
      ∃ behind, hole? t = some (number, shown, behind) ∧ read behind = parts := by
  cases t with
  | nil =>
    rw [read]
    simp [hole?]
  | cons c t =>
    cases hhole : hole? (c :: t) with
    | none =>
      rw [read_of_hole?_eq_none hhole]
      simp
    | some found =>
      obtain ⟨number', shown', behind⟩ := found
      rw [read_of_hole?_eq_some hhole]
      simp [and_assoc]

/-- A placeholder begins with a dollar sign. -/
theorem hole?_of_ne (h : c ≠ CodePoint.ofChar '$') (t : Text) : hole? (c :: t) = none := by
  unfold hole?
  split
  · rename_i dollar brace rest hcons
    obtain ⟨rfl, rfl⟩ := List.cons.inj hcons
    split
    · rfl
    · exact if_neg fun hhole => h hhole.1
  · rfl

/-- **A text without a dollar sign** is read as it is. -/
theorem read_append (h : CodePoint.ofChar '$' ∉ t) (rest : Text) :
    read (t ++ rest) = literals t ++ read rest := by
  induction t with
  | nil => rfl
  | cons c t ih =>
    rw [List.mem_cons, not_or] at h
    rw [List.cons_append, read_of_hole?_eq_none (hole?_of_ne (Ne.symm h.1) _), ih h.2]
    rfl

/-- Behind the number that is written in it, a placeholder goes on until it is closed. -/
theorem hole?_placeholder (number : Nat) (shown rest : Text) :
    hole? (CompletionItem.placeholder number shown ++ rest) =
      (close? false (shown ++ CodePoint.ofChar '\x7d' :: rest)).map
        fun (shown, behind) => (number, shown, behind) := by
  have hwritten : CompletionItem.placeholder number shown ++ rest =
      CodePoint.ofChar '$' :: CodePoint.ofChar '\x7b' ::
        (Text.ofNat number ++ CodePoint.ofChar ':' ::
          (shown ++ CodePoint.ofChar '\x7d' :: rest)) := by
    simp [CompletionItem.placeholder, Text.ofString]
  have hcolon : ∀ c ∈ (CodePoint.ofChar ':' ::
      (shown ++ CodePoint.ofChar '\x7d' :: rest)).head?, c.isAsciiDigit = false := by
    rintro c ⟨⟩
    decide
  have hdigits := Text.isAsciiDigit_of_mem_ofNat number
  rw [hwritten, hole?, Text.dropWhile_run hdigits hcolon]
  simp only
  rw [Text.takeWhile_run hdigits hcolon, Text.ofDigits_ofNat,
    if_pos ⟨trivial, trivial, trivial, Text.ofNat_ne_nil number⟩]

/-- **A placeholder is read as it was written** if and only if its text fits. -/
theorem read_placeholder_iff {number : Nat} {rest : Text} {parts : List SnippetPart} :
    read (CompletionItem.placeholder number shown ++ rest) = .hole number shown :: parts ↔
      Fits shown ∧ read rest = parts := by
  rw [read_eq_hole_cons_iff, hole?_placeholder]
  constructor
  · rintro ⟨behind, hhole, rfl⟩
    obtain ⟨⟨shown', behind'⟩, hclose, hpair⟩ := Option.map_eq_some_iff.1 hhole
    obtain ⟨-, hpair⟩ := Prod.mk.inj hpair
    obtain ⟨rfl, rfl⟩ := Prod.mk.inj hpair
    obtain ⟨htext, hfits⟩ := close?_eq_some_iff.1 hclose
    obtain ⟨-, rfl⟩ := List.cons.inj (List.append_cancel_left htext)
    exact ⟨hfits, rfl⟩
  · rintro ⟨hfits, hrest⟩
    rw [close?_eq_some_iff.2 ⟨rfl, hfits⟩]
    exact ⟨rest, rfl, hrest⟩

/-- **Placeholders one after another** are read as they were written if and only if all
their texts fit. -/
theorem read_join_placeholders_iff {number : Nat} {names : List Text} :
    read (Text.join ", " (CompletionItem.placeholders number names) ++ ")") =
      holes number names ++ literals ")" ↔ ∀ name ∈ names, Fits name := by
  have hclose : read ")" = literals ")" := by
    have h := read_append (t := ")") (by decide) []
    rwa [read, List.append_nil, List.append_nil] at h
  induction names generalizing number with
  | nil => simp [CompletionItem.placeholders, holes, Text.join, hclose]
  | cons name names ih =>
    cases names with
    | nil =>
      show read (CompletionItem.placeholder number name ++ ")") = .hole number name :: _ ↔ _
      rw [read_placeholder_iff, List.forall_mem_singleton, and_iff_left]
      exact hclose
    | cons next names =>
      have hjoin : Text.join ", " (CompletionItem.placeholders number (name :: next :: names)) =
          CompletionItem.placeholder number name ++ (", " ++
            Text.join ", " (CompletionItem.placeholders (number + 1) (next :: names))) :=
        List.append_assoc ..
      rw [hjoin, List.append_assoc, List.append_assoc, holes, List.cons_append,
        read_placeholder_iff, read_append (by decide), List.append_assoc, List.append_right_inj,
        List.forall_mem_cons]
      exact and_congr_right fun _ => ih

end Snippet

namespace CompletionItem

open Snippet (read expand call Fits)

/-- **The snippet of a method** is read as a call with a placeholder for each parameter if
and only if the names of all parameters fit; then the call is inserted with these names
for its arguments. A name fits if it has neither a closing brace nor a backslash, and so
does the name of a parameter with an annotation. -/
theorem ofMethod_snippet {name : Text} {m : Method} (hname : CodePoint.ofChar '$' ∉ name)
    (hparameters : Signature.parameters m.signature ≠ []) :
    let names := (Signature.parameters m.signature).map (·.name)
    ∃ t, (ofMethod name m).insertion.text? = some t ∧
      (ofMethod name m).insertion.format? = some "snippet" ∧
      (read t = call name names ↔ ∀ shown ∈ names, Fits shown) ∧
      (read t = call name names → expand (read t) = name ++ "(" ++ Text.join ", " names ++ ")") ∧
      (∀ shown ∈ names, CodePoint.ofChar '\x7d' ∉ shown → CodePoint.ofChar '\\' ∉ shown →
        Fits shown) ∧
      ∀ p ∈ Signature.parameters m.signature, p.type ≠ none → Fits p.name := by
  intro names
  have hinsertion : (ofMethod name m).insertion =
      .snippet (snippet name (Signature.parameters m.signature)) := by
    show methodInsertion name m.signature = _
    unfold methodInsertion
    split
    · rename_i hnil
      exact absurd hnil hparameters
    · rfl
  rw [hinsertion]
  refine ⟨_, rfl, rfl, ?_, fun hread => ?_, fun shown _ => Snippet.fits_of_not_mem,
    fun p hp htype => ?_⟩
  · have hopen : CodePoint.ofChar '$' ∉ name ++ "(" := fun hmem =>
      (List.mem_append.1 hmem).elim hname (by decide)
    unfold snippet call
    rw [List.append_assoc, Snippet.read_append hopen, List.append_right_inj]
    exact Snippet.read_join_placeholders_iff
  · rw [hread, Snippet.expand_call]
  · obtain ⟨type, htype⟩ := Option.ne_none_iff_exists'.1 htype
    have hword : p.name.IsWord :=
      ((Signature.isWellFormed_of_mem_parameters hp).type type htype).2.2.2
    exact Snippet.fits_of_not_mem (hword.not_mem (by decide)) (hword.not_mem (by decide))

/-- Words fit, with and without an annotation. -/
theorem ofMethod_snippet_spawn :
    ∃ t, (ofMethod "spawn" ⟨"spawn(self, blueprint: Blueprint, at=None)", []⟩).insertion.text? =
        some t ∧
      read t = call "spawn" ["blueprint", "at"] ∧ expand (read t) = "spawn(blueprint, at)" := by
  have hnames : (Signature.parameters "spawn(self, blueprint: Blueprint, at=None)").map (·.name) =
      ["blueprint", "at"] := by decide
  have hname : CodePoint.ofChar '$' ∉ ("spawn" : Text) := by decide
  obtain ⟨t, ht, -, hread, hexpand, hfits, -⟩ := ofMethod_snippet hname
    (m := ⟨"spawn(self, blueprint: Blueprint, at=None)", []⟩) (by decide)
  rw [hnames] at hread hexpand hfits
  have hcall : read t = call "spawn" ["blueprint", "at"] := hread.2 fun shown hshown => by
    refine hfits shown hshown ?_ ?_
    · revert shown
      decide
    · revert shown
      decide
  exact ⟨t, ht, hcall, hexpand hcall⟩

/-- The names of parameters that commas make of a default need not fit: the brace ends the
placeholder too early, and the snippet is not read as the call. -/
theorem ofMethod_snippet_brace :
    (ofMethod "paint" ⟨"paint(self, colors=\x7b1, 2\x7d)", []⟩).insertion =
        .snippet "paint($\x7b1:colors\x7d, $\x7b2:2\x7d\x7d)" ∧
      (Signature.parameters "paint(self, colors=\x7b1, 2\x7d)").map (·.name) =
        ["colors", "2\x7d"] ∧
      read "paint($\x7b1:colors\x7d, $\x7b2:2\x7d\x7d)" =
        Snippet.literals "paint(" ++ [.hole 1 "colors"] ++ Snippet.literals ", " ++
          [.hole 2 "2"] ++ Snippet.literals "\x7d)" ∧
      read "paint($\x7b1:colors\x7d, $\x7b2:2\x7d\x7d)" ≠ call "paint" ["colors", "2\x7d"] := by
  decide +kernel

end CompletionItem
end Payload
end ApiGuide
