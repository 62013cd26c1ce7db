/-
# From a dot to a call

A text offers the members of a receiver at its end if it ends with that receiver,
taken whole, a dot and blanks (`dotReceiver?_eq_some_iff`). Typing a method and an
opening bracket there opens the call of that method, if nothing stands behind the
dot. Behind blanks it opens no call: a method follows its dot directly, so the text
is in the argument list that it was in before, if it was in one (`callAt_typed`).
-/

import ApiGuide.Proofs.Context.Call

namespace ApiGuide
namespace Context

/-! ### What a context depends on -/

/-- The text left of a cursor at the end of a text is the whole text. -/
theorem before_length (t : Text) : before t t.length = t := by
  unfold before clamp
  rw [Int.toNat_natCast, Nat.min_self, List.take_length]

/-- **After a dot and in a call only the text left of the cursor counts.** -/
theorem dotAt_and_callAt_congr {line line' : Text} {cursor cursor' : Int}
    (h : before line' cursor' = before line cursor) :
    dotAt line' cursor' = dotAt line cursor ∧ callAt line' cursor' = callAt line cursor := by
  unfold dotAt callAt
  rw [h]
  exact ⟨rfl, rfl⟩

/-- **A cursor counts as the nearest place in the line**, for every context. -/
theorem contexts_congr {line : Text} {cursor cursor' : Int}
    (h : clamp line cursor' = clamp line cursor) :
    dotAt line cursor' = dotAt line cursor ∧ callAt line cursor' = callAt line cursor ∧
      wordAt line cursor' = wordAt line cursor := by
  have hbefore : before line cursor' = before line cursor := by
    unfold before
    rw [h]
  obtain ⟨hdot, hcall⟩ := dotAt_and_callAt_congr hbefore
  refine ⟨hdot, hcall, ?_⟩
  unfold wordAt
  rw [h]

/-! ### Receivers -/

/-- A dot and blanks are a dot with a gap behind it. -/
theorem isDotAndBlanks_eq_true_iff {t : Text} :
    isDotAndBlanks t = true ↔ ∃ gap : Text, gap.IsGap ∧ t = CodePoint.ofChar '.' :: gap := by
  cases t with
  | nil => simp [isDotAndBlanks]
  | cons c rest =>
    simp only [isDotAndBlanks, Bool.and_eq_true, decide_eq_true_eq, List.all_eq_true]
    constructor
    · rintro ⟨rfl, hrest⟩
      exact ⟨rest, hrest, rfl⟩
    · rintro ⟨gap, hgap, h⟩
      obtain ⟨rfl, rfl⟩ := List.cons.inj h
      exact ⟨rfl, hgap⟩

/-- A dot and blanks hold no word characters. -/
theorem isWord_of_isDotAndBlanks (t : Text) (h : isDotAndBlanks t = true) :
    ∀ c ∈ t, c.isWord = false := by
  obtain ⟨gap, hgap, rfl⟩ := isDotAndBlanks_eq_true_iff.1 h
  exact List.forall_mem_cons.2 ⟨by decide, fun c hc => hgap.isWord hc⟩

/-- **The receiver that a text ends with** is the whole word before its last dot, if
that dot has nothing but blanks behind it. -/
theorem dotReceiver?_eq_some_iff {t receiver : Text} :
    dotReceiver? t = some receiver ↔ ∃ lead gap : Text,
      t = lead ++ (receiver ++ CodePoint.ofChar '.' :: gap) ∧
        (∀ c ∈ lead.getLast?, c.isWord = false) ∧ receiver.IsWord ∧ gap.IsGap := by
  unfold dotReceiver?
  rw [Text.searchWord?_eq_some_iff isWord_of_isDotAndBlanks]
  constructor
  · rintro ⟨lead, rest, ht, hlead, hreceiver, hrest⟩
    obtain ⟨gap, hgap, rfl⟩ := isDotAndBlanks_eq_true_iff.1 hrest
    exact ⟨lead, gap, ht, hlead, hreceiver, hgap⟩
  · rintro ⟨lead, gap, ht, hlead, hreceiver, hgap⟩
    exact ⟨lead, _, ht, hlead, hreceiver, isDotAndBlanks_eq_true_iff.2 ⟨gap, hgap, rfl⟩⟩

/-- **There is a receiver at a cursor** exactly where one is found in what stands before it. -/
theorem dotAt_eq_dot_iff {line receiver : Text} {cursor : Int} :
    dotAt line cursor = .dot receiver ↔ dotReceiver? (before line cursor) = some receiver := by
  unfold dotAt
  cases dotReceiver? (before line cursor) <;> simp

/-! ### Typing a method -/

/-- What is typed to call a method: its name and an opening bracket. -/
def typed (method : Text) : Text := method ++ [CodePoint.ofChar '(']

variable {t method : Text} {blank : CodePoint}

/-- **Behind a blank, a word and a bracket open no call.** Whatever opens a call in the
longer text opened one before. -/
theorem infix_of_isOpener_typed (hlast : t.getLast? = some blank) (hblank : blank.isBlank = true)
    (hmethod : method.IsWord) {opener : Text} (hopener : IsOpener opener)
    (hin : opener <:+: t ++ typed method) : opener <:+: t := by
  obtain ⟨receiver, method', gap, hreceiver, hmethod', hgap, rfl⟩ := hopener
  obtain ⟨s, e, h⟩ := hin
  rcases List.eq_nil_or_concat e with rfl | ⟨e, c, rfl⟩
  · -- The opener would end with the typed bracket, and its dot would be the blank.
    have hbracket : (s ++ receiver ++ [CodePoint.ofChar '.'] ++ method') ++ gap ++
        [CodePoint.ofChar '('] = (t ++ method) ++ [] ++ [CodePoint.ofChar '('] := by
      simpa [typed] using h
    have hleft := List.append_cancel_right hbracket
    obtain ⟨hnamed, -⟩ := Text.eq_of_append_run hleft hgap (by simp)
      (hmethod'.isBlank_of_mem_getLast? _) (hmethod.isBlank_of_mem_getLast? _)
    have hnotWord : ∀ c ∈ t.getLast?, c.isWord = false := by
      rw [hlast]
      rintro c ⟨⟩
      exact CodePoint.isWord_of_isBlank hblank
    obtain ⟨hdot, -⟩ := Text.eq_of_append_run hnamed hmethod'.isWord hmethod.isWord
      (by simp; decide) hnotWord
    rw [← hdot, List.getLast?_concat] at hlast
    obtain rfl := Option.some.inj hlast
    exact absurd hblank (by decide)
  · -- The typed bracket is behind the opener, and the word before it holds none.
    have hc : c = CodePoint.ofChar '(' := by
      have hend := congrArg List.getLast? h
      simpa [typed, ← List.append_assoc, List.concat_eq_append] using hend
    have hbracket : (s ++ (receiver ++ CodePoint.ofChar '.' :: (method' ++ gap))) ++
        CodePoint.ofChar '(' :: e ++ [CodePoint.ofChar '('] =
          (t ++ method) ++ [CodePoint.ofChar '('] := by
      simpa [typed, hc] using h
    have hleft := List.append_cancel_right hbracket
    obtain ⟨z, rfl, -⟩ := Text.exists_of_append_cons_eq hleft (hmethod.not_mem (by decide))
    exact ⟨s, z, by simp⟩

/-- The same call with more text in its arguments. -/
def Call.goingOn (call : Call) (more : Text) : Call :=
  { call with arguments := call.arguments ++ more }

/-- **Typing a method behind a blank goes on in the arguments** of the call that cuts
the text. -/
theorem Call.Cuts.goingOn_typed {call : Call} (h : call.Cuts t) (hlast : t.getLast? = some blank)
    (hblank : blank.isBlank = true) (hmethod : method.IsWord) :
    (call.goingOn (typed method)).Cuts (t ++ typed method) := by
  have harguments : call.arguments.getLast? = some blank := by
    rw [h.text, List.getLast?_append, List.getLast?_cons] at hlast
    cases hc : call.arguments.getLast? with
    | some c => simpa [hc] using hlast
    | none =>
      rw [hc] at hlast
      obtain rfl := Option.some.inj hlast
      exact absurd hblank (by decide)
  refine ⟨?_, h.whole, fun opener hin hopener => ?_⟩
  · rw [h.text]
    simp [Call.goingOn]
  · exact h.innermost opener (infix_of_isOpener_typed harguments hblank hmethod hopener hin)
      hopener

/-- **Typing a method behind a blank changes nothing about the open call.** -/
theorem callAt_typed_of_blank (hlast : t.getLast? = some blank) (hblank : blank.isBlank = true)
    (hmethod : method.IsWord) :
    callAt (t ++ typed method) (t ++ typed method).length = callAt t t.length := by
  unfold callAt
  rw [before_length, before_length]
  cases hfound : (openings t).getLast? with
  | none =>
    have hnone : openings (t ++ typed method) = [] := openings_eq_nil_iff.2
      fun opener hin hopener => openings_eq_nil_iff.1 (List.getLast?_eq_none_iff.1 hfound) opener
        (infix_of_isOpener_typed hlast hblank hmethod hopener hin) hopener
    rw [hnone, List.getLast?_nil]
  | some o =>
    obtain ⟨call, hcut, hreceiver, hname, harguments⟩ := getLast?_openings_eq_some_iff.1 hfound
    have hfound' : (openings (t ++ typed method)).getLast? =
        some ⟨o.receiver, o.method, o.behind ++ typed method⟩ :=
      getLast?_openings_eq_some_iff.2 ⟨_, hcut.goingOn_typed hlast hblank hmethod, hreceiver, hname,
        congrArg (· ++ typed method) harguments⟩
    have hcomma : (typed method).count (CodePoint.ofChar ',') = 0 :=
      List.count_eq_zero.2 (by simpa [typed] using hmethod.not_mem (by decide))
    rw [hfound']
    simp only
    rw [List.count_append, hcomma, Nat.add_zero]

/-- **Typing a method directly behind the dot of a receiver opens its call.** -/
theorem callAt_typed_of_dot {lead receiver : Text} (hlead : ∀ c ∈ lead.getLast?, c.isWord = false)
    (hreceiver : receiver.IsWord) (hmethod : method.IsWord)
    (ht : t = lead ++ (receiver ++ [CodePoint.ofChar '.'])) :
    callAt (t ++ typed method) (t ++ typed method).length = .call receiver method 0 := by
  have hcut : Call.Cuts ⟨⟨lead, receiver, method, []⟩, []⟩ (t ++ typed method) := by
    refine ⟨?_, ⟨hreceiver, hmethod, Text.isGap_nil, hlead⟩, fun opener hin => ?_⟩
    · rw [ht]
      simp [typed, Callee.text]
    · exact openings_eq_nil_iff.1 (by rw [openings]) opener hin
  rw [callAt_eq_call_iff, before_length]
  exact ⟨_, hcut, rfl, rfl, rfl⟩

/-- **From a dot to a call.** Where the members of a receiver are offered, typing one
of them and an opening bracket opens its call if the text ends with the dot; if blanks
stand behind the dot, the open call is what it was. -/
theorem callAt_typed {receiver : Text} (hdot : dotAt t t.length = .dot receiver)
    (hmethod : method.IsWord) :
    callAt (t ++ typed method) (t ++ typed method).length =
      if t.getLast? = some (CodePoint.ofChar '.') then .call receiver method 0
      else callAt t t.length := by
  rw [dotAt_eq_dot_iff, before_length] at hdot
  obtain ⟨lead, gap, ht, hlead, hreceiver, hgap⟩ := dotReceiver?_eq_some_iff.1 hdot
  cases hlast : gap.getLast? with
  | none =>
    obtain rfl := List.getLast?_eq_none_iff.1 hlast
    have hend : t.getLast? = some (CodePoint.ofChar '.') := by
      rw [ht, ← List.append_assoc, List.getLast?_concat]
    rw [if_pos hend]
    exact callAt_typed_of_dot hlead hreceiver hmethod ht
  | some blank =>
    have hblank : blank.isBlank = true := hgap blank (List.mem_of_getLast? hlast)
    have hend : t.getLast? = some blank := by
      rw [ht]
      simp [List.getLast?_append, List.getLast?_cons, hlast]
    have hne : blank ≠ CodePoint.ofChar '.' := by
      rintro rfl
      exact absurd hblank (by decide)
    rw [if_neg (by rw [hend]; exact fun h => hne (Option.some.inj h))]
    exact callAt_typed_of_blank hend hblank hmethod

end Context
end ApiGuide
