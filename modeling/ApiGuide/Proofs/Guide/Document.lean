/-
# Documents and their lines

A document is written from lines. Between two lines stands a line feed, alone or with a
carriage return before it, and further carriage returns may stand anywhere
(`Document`). Reading the line of a number gives back the line that was written there
(`Document.documentLine?`), so the answers at a position are those for that line alone,
and a position behind the end of the line counts as its end (`answers_eq_on_line`).
-/

import ApiGuide.Proofs.Guide.Completion
import ApiGuide.Proofs.Text.Cut

namespace ApiGuide

/-! ### Writing documents -/

/-- What stands between two lines. -/
def lineEnds : List Text := [[CodePoint.lineFeed], [CodePoint.carriageReturn, CodePoint.lineFeed]]

/-- Lines one after the other, with a line end of either kind between neighbours. -/
inductive Joined : List Text → Text → Prop
  | last (l : Text) : Joined [l] l
  | next (l : Text) {stop : Text} (hstop : stop ∈ lineEnds) {lines : List Text} {t : Text}
      (rest : Joined lines t) : Joined (l :: lines) (l ++ (stop ++ t))

/-- A text with carriage returns put in at any places. -/
inductive Returned : Text → Text → Prop
  | nil : Returned [] []
  | keep (c : CodePoint) {t u : Text} (rest : Returned t u) : Returned (c :: t) (c :: u)
  | insert {t u : Text} (rest : Returned t u) : Returned t (CodePoint.carriageReturn :: u)

/-- A document that is written from lines; there is neither a line feed nor a carriage
return in a line. -/
structure Document (lines : List Text) (text : Text) : Prop where
  line : ∀ l ∈ lines, CodePoint.lineFeed ∉ l ∧ CodePoint.carriageReturn ∉ l
  written : ∃ t, Joined lines t ∧ Returned t text

/-! ### Reading lines -/

/-- The text without its carriage returns. -/
def withoutReturns (t : Text) : Text := t.filter (· ≠ CodePoint.carriageReturn)

/-- Carriage returns are dropped part by part. -/
theorem withoutReturns_append (t u : Text) :
    withoutReturns (t ++ u) = withoutReturns t ++ withoutReturns u :=
  List.filter_append t u

/-- Nothing is dropped where there is no carriage return. -/
theorem withoutReturns_of_not_mem {t : Text} (h : CodePoint.carriageReturn ∉ t) :
    withoutReturns t = t :=
  List.filter_eq_self.2 fun _ hc => decide_eq_true fun he => h (he ▸ hc)

/-- A line end without its carriage returns is a line feed. -/
theorem withoutReturns_of_mem_lineEnds :
    ∀ stop ∈ lineEnds, withoutReturns stop = [CodePoint.lineFeed] := by
  decide

/-- A text may get no carriage returns at all. -/
theorem Returned.refl : ∀ t : Text, Returned t t
  | [] => .nil
  | c :: t => .keep c (refl t)

/-- **Carriage returns that are put in are lost again.** -/
theorem Returned.withoutReturns_eq {t u : Text} (h : Returned t u) :
    withoutReturns u = withoutReturns t := by
  induction h with
  | nil => rfl
  | keep c rest ih =>
    show withoutReturns ([c] ++ _) = withoutReturns ([c] ++ _)
    rw [withoutReturns_append, withoutReturns_append, ih]
  | insert rest ih => exact ih

/-- A document has one line at least. -/
theorem Joined.ne_nil {lines : List Text} {t : Text} (h : Joined lines t) : lines ≠ [] := by
  cases h <;> exact List.cons_ne_nil _ _

/-- **Without carriage returns, a document is its lines between line feeds.** -/
theorem Joined.withoutReturns_eq {lines : List Text} {t : Text} (h : Joined lines t)
    (hlines : ∀ l ∈ lines, CodePoint.carriageReturn ∉ l) :
    withoutReturns t = Text.join [CodePoint.lineFeed] lines := by
  induction h with
  | last l => exact withoutReturns_of_not_mem (hlines l List.mem_cons_self)
  | next l hstop rest ih =>
    obtain ⟨hl, hrest⟩ := List.forall_mem_cons.1 hlines
    rw [withoutReturns_append, withoutReturns_append, withoutReturns_of_not_mem hl,
      withoutReturns_of_mem_lineEnds _ hstop, ih hrest, Text.join_cons rest.ne_nil,
      List.append_assoc]

namespace Document

variable {lines : List Text} {text : Text}

/-- A line makes a document on its own. -/
theorem single {l : Text} (h : CodePoint.lineFeed ∉ l ∧ CodePoint.carriageReturn ∉ l) :
    Document [l] l :=
  ⟨fun _ hl => List.mem_singleton.1 hl ▸ h, l, .last l, .refl l⟩

/-- **The lines of a document are those it is written from.** -/
theorem documentLine? (h : Document lines text) (i : Int) :
    documentLine? text i = if i < 0 then none else lines[i.toNat]? := by
  obtain ⟨t, hjoined, hreturned⟩ := h.written
  have hsplit : Text.splitOn CodePoint.lineFeed (withoutReturns text) = lines := by
    rw [hreturned.withoutReturns_eq, hjoined.withoutReturns_eq fun l hl => (h.line l hl).2]
    exact Text.splitOn_join hjoined.ne_nil fun l hl => (h.line l hl).1
  unfold ApiGuide.documentLine?
  rw [← hsplit]
  rfl

/-- A document of one line has that line. -/
theorem documentLine?_zero {l : Text} (h : Document [l] l) : ApiGuide.documentLine? l 0 = some l :=
  h.documentLine? 0

end Document

/-! ### Cursors outside of a line -/

namespace Context

/-- A cursor that is moved into the line is moved no further. -/
theorem clamp_max_min (line : Text) (cursor : Int) :
    clamp line (max 0 (min cursor line.length)) = clamp line cursor := by
  unfold clamp
  omega

end Context

/-! ### Answers -/

/-- What a guide answers at a position: to a request for completion, for signature help,
and for what is shown over the position. -/
structure Answers where
  completion : List Payload.CompletionItem
  signatureHelp? : Option Payload.SignatureHelp
  hover? : Option Payload.Hover
deriving DecidableEq

/-- No answer to any request. -/
def Answers.nothing : Answers := ⟨[], none, none⟩

namespace Guide

/-- The answers of a guide at a position. -/
def answers (guide : Guide) (text : Option Text) (line character : Int) : Answers :=
  ⟨guide.complete text line character, guide.signatureHelp? text line character,
    guide.hover? text line character⟩

variable {guide : Guide} {text : Text} {line : Int}

/-- The answers depend on the line of the position alone. -/
theorem answers_congr {text' : Text} {line' : Int}
    (h : documentLine? text' line' = documentLine? text line) (character : Int) :
    guide.answers text' line' character = guide.answers text line character := by
  simp only [answers, complete, signatureHelp?, hover?, onLine?_some, h]

/-- On a line that does not exist there are no answers. -/
theorem answers_of_documentLine?_eq_none (h : documentLine? text line = none) (character : Int) :
    guide.answers text line character = .nothing := by
  simp only [answers, complete, signatureHelp?, hover?, onLine?_some, h, Option.map_none]
  cases guide.catalog? <;> rfl

/-- A position outside of the line counts as the nearest one in it. -/
theorem answers_max_min {l : Text} (h : documentLine? text line = some l) (character : Int) :
    guide.answers text line (max 0 (min character l.length)) =
      guide.answers text line character := by
  obtain ⟨hdot, hcall, hword⟩ := Context.contexts_congr (Context.clamp_max_min l character)
  simp only [answers, complete, signatureHelp?, hover?, onLine?_some, h, Option.map_some, hdot,
    hcall, hword]

/-- **Only the line of the position counts.** However the lines of a document end, the
answers on one of them are those for the document of that line alone, there and at the
nearest position in the line; on a line that does not exist there are none. So another
document with the same line at that place has the same answers there. -/
theorem answers_eq_on_line (guide : Guide) {lines : List Text} {text : Text}
    (h : Document lines text) (character : Int) :
    (∀ (i : Nat) (l : Text), lines[i]? = some l →
      guide.answers text i character = guide.answers l 0 character ∧
      guide.answers text i character = guide.answers l 0 (max 0 (min character l.length))) ∧
    (∀ i : Int, i < 0 ∨ lines.length ≤ i → guide.answers text i character = .nothing) ∧
    ∀ (lines' : List Text) (text' : Text), Document lines' text' →
      ∀ i : Nat, lines'[i]? = lines[i]? →
        guide.answers text' i character = guide.answers text i character := by
  refine ⟨fun i l hl => ?_, fun i hi => ?_, fun lines' text' h' i hi => ?_⟩
  · have hsingle := (Document.single (h.line l (List.mem_of_getElem? hl))).documentLine?_zero
    have hline : documentLine? text i = documentLine? l 0 := by
      rw [h.documentLine?, hsingle, if_neg (by omega), Int.toNat_natCast, hl]
    rw [answers_max_min hsingle]
    exact ⟨answers_congr hline character, answers_congr hline character⟩
  · refine answers_of_documentLine?_eq_none ?_ character
    rw [h.documentLine?]
    split
    · rfl
    · exact List.getElem?_eq_none (by omega)
  · refine answers_congr ?_ character
    rw [h.documentLine?, h'.documentLine?, Int.toNat_natCast, hi]

/-- Two lines with a carriage return before the line feed and another one in a word; behind
the dot there is something to offer. -/
theorem answers_eq_on_line_lamp :
    Document ["x", "Lamp."] "x\x0d\nLa\x0dmp." ∧
      lampGuide.answers "x\x0d\nLa\x0dmp." 1 99 = lampGuide.answers "Lamp." 0 5 ∧
      (lampGuide.answers "Lamp." 0 5).completion ≠ [] ∧
      lampGuide.answers "x\x0d\nLa\x0dmp." 2 0 = .nothing := by
  have hdocument : Document ["x", "Lamp."] "x\x0d\nLa\x0dmp." := by
    have hboth : [CodePoint.carriageReturn, CodePoint.lineFeed] ∈ lineEnds := by decide
    refine ⟨by decide, _, .next "x" hboth (.last "Lamp."), ?_⟩
    exact .keep _ (.keep _ (.keep _ (.keep _ (.keep _ (.insert (.refl _))))))
  obtain ⟨hline, -⟩ := answers_eq_on_line lampGuide hdocument 99
  obtain ⟨-, hnone, -⟩ := answers_eq_on_line lampGuide hdocument 0
  have hoffered : (lampGuide.answers "Lamp." 0 5).completion ≠ [] := by
    refine List.ne_nil_of_length_pos ?_
    have hlist : (lampGuide.answers "Lamp." 0 5).completion = Payload.sorted
        [.ofMethod "light" ⟨"light(self)", "On."⟩, .ofProperty "color" ⟨"", true, true⟩] := rfl
    rw [hlist, Payload.sorted, List.length_mergeSort]
    decide
  exact ⟨hdocument, (hline 1 "Lamp." rfl).2, hoffered, hnone 2 (by decide)⟩

end Guide
end ApiGuide
