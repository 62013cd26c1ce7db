/-
# The open call of a text

A text is in the argument list of a call if it can be cut into something that ends
with no word character, a receiver, a dot, a method, blanks, an opening bracket,
and arguments in which no other call begins (`Call.Cuts`). There is one such cut at
most (`Call.Cuts.unique`): a later bracket would open a call in the arguments of
the earlier one, and left of a bracket the words are taken whole.

The search for calls goes from the left, and behind the bracket of each call that
it finds. The last call that it finds is the one that cuts the text
(`getLast?_openings_eq_some_iff`), for whatever calls are found before: a search that
goes on behind a bracket does not miss or shorten a call, as no call reaches over
the bracket of an earlier one, and one that fails in a word finds nothing in the rest
of that word. So the context in a call is that of the call that cuts the text left of the
cursor (`callAt_eq_call_iff`).
-/

import ApiGuide.Context
import ApiGuide.Proofs.Text.Cut
import ApiGuide.Proofs.Text.Search

namespace ApiGuide
namespace Context

/-! ### Callees -/

/-- A text before an opening bracket, cut into what stands before a receiver, the
receiver, the method and blanks. The dot is left out. -/
structure Callee where
  before : Text
  receiver : Text
  method : Text
  gap : Text

namespace Callee

/-- The text that is cut. -/
def text (c : Callee) : Text :=
  c.before ++ (c.receiver ++ CodePoint.ofChar '.' :: (c.method ++ c.gap))

/-- Receiver and method are words, the first one whole, and the gap is blank. -/
structure IsWhole (c : Callee) : Prop where
  receiver : c.receiver.IsWord
  method : c.method.IsWord
  gap : c.gap.IsGap
  before : ∀ d ∈ c.before.getLast?, d.isWord = false

variable {c c' : Callee}

/-- Behind what stands before a callee there is no bracket. -/
theorem IsWhole.bracket_not_mem (h : c.IsWhole) :
    CodePoint.ofChar '(' ∉ c.receiver ++ CodePoint.ofChar '.' :: (c.method ++ c.gap) := by
  simp only [List.mem_append, List.mem_cons, not_or]
  exact ⟨h.receiver.not_mem (by decide), by decide, h.method.not_mem (by decide),
    h.gap.not_mem (by decide)⟩

/-- **A text has one whole cut at most**, which is found from its end: blanks, a word,
a dot, and a word as long as it is. -/
theorem IsWhole.unique (h : c.IsWhole) (h' : c'.IsWhole) (htext : c.text = c'.text) : c = c' := by
  obtain ⟨before, receiver, method, gap⟩ := c
  obtain ⟨before', receiver', method', gap'⟩ := c'
  have hnamed : (before ++ receiver ++ [CodePoint.ofChar '.'] ++ method) ++ gap =
      (before' ++ receiver' ++ [CodePoint.ofChar '.'] ++ method') ++ gap' := by
    simpa [text] using htext
  obtain ⟨hleft, rfl⟩ := Text.eq_of_append_run hnamed h.gap h'.gap
    (h.method.isBlank_of_mem_getLast? _) (h'.method.isBlank_of_mem_getLast? _)
  obtain ⟨hdotted, rfl⟩ := Text.eq_of_append_run hleft h.method.isWord h'.method.isWord
    (by simp; decide) (by simp; decide)
  obtain ⟨rfl, rfl⟩ := Text.eq_of_append_run (List.append_cancel_right hdotted) h.receiver.isWord
    h'.receiver.isWord h.before h'.before
  rfl

end Callee

/-! ### Calls that begin in a text -/

/-- A text that opens a call: a word, a dot, a word, blanks and an opening bracket. -/
def IsOpener (t : Text) : Prop :=
  ∃ receiver method gap : Text, receiver.IsWord ∧ method.IsWord ∧ gap.IsGap ∧
    t = receiver ++ CodePoint.ofChar '.' :: (method ++ (gap ++ [CodePoint.ofChar '(']))

/-- **A call begins where a text begins with an opener.** -/
theorem opening?_eq_some_iff {t : Text} {o : Opening} :
    opening? t = some o ↔ o.receiver.IsWord ∧ o.method.IsWord ∧ ∃ gap : Text, gap.IsGap ∧
      t = o.receiver ++ CodePoint.ofChar '.' ::
        (o.method ++ (gap ++ CodePoint.ofChar '(' :: o.behind)) := by
  constructor
  · intro h
    unfold opening? at h
    split at h
    · simp at h
    · rename_i c rest hrest
      split at h
      · simp at h
      · rename_i d behind hbehind
        split at h
        · rename_i hfound
          obtain ⟨rfl, rfl, hreceiver, hmethod⟩ := hfound
          obtain rfl := Option.some.inj h
          refine ⟨Text.isWord_leadingWord hreceiver, Text.isWord_leadingWord hmethod,
            (rest.dropWhile CodePoint.isWord).takeWhile CodePoint.isBlank,
            fun c hc => List.mem_takeWhile_imp hc, ?_⟩
          have hgap : (rest.dropWhile CodePoint.isWord).takeWhile CodePoint.isBlank ++
              CodePoint.ofChar '(' :: behind = rest.dropWhile CodePoint.isWord := by
            rw [← hbehind]
            exact List.takeWhile_append_dropWhile
          rw [hgap, Text.leadingWord_append_dropWhile, ← hrest, Text.leadingWord_append_dropWhile]
        · simp at h
  · rintro ⟨hreceiver, hmethod, gap, hgap, rfl⟩
    have hblank : ∀ d ∈ (gap ++ CodePoint.ofChar '(' :: o.behind).head?, d.isWord = false :=
      hgap.isWord_head?_append_cons (by decide) o.behind
    have hdot : ∀ d ∈ (CodePoint.ofChar '.' ::
        (o.method ++ (gap ++ CodePoint.ofChar '(' :: o.behind))).head?, d.isWord = false := by
      simp; decide
    have htrim : Text.trimStart (gap ++ CodePoint.ofChar '(' :: o.behind) =
        CodePoint.ofChar '(' :: o.behind := Text.trimStart_gap_append hgap (by simp; decide)
    unfold opening? Text.leadingWord
    rw [Text.dropWhile_run hreceiver.isWord hdot]
    simp only
    rw [Text.dropWhile_run hmethod.isWord hblank, htrim]
    simp only
    rw [Text.takeWhile_run hreceiver.isWord hdot, Text.takeWhile_run hmethod.isWord hblank,
      if_pos ⟨trivial, trivial, hreceiver.ne_nil, hmethod.ne_nil⟩]

/-- **The search comes back empty if and only if nothing in the text opens a call.** -/
theorem openings_eq_nil_iff {t : Text} :
    openings t = [] ↔ ∀ opener, opener <:+: t → ¬ IsOpener opener := by
  fun_induction openings t with
  | case1 =>
    refine ⟨fun _ opener hopener => ?_, fun _ => rfl⟩
    obtain rfl := List.infix_nil.1 hopener
    rintro ⟨receiver, method, gap, hreceiver, -, -, h⟩
    exact hreceiver.ne_nil (List.append_eq_nil_iff.1 h.symm).1
  | case2 c rest o ho _ =>
    refine ⟨fun h => absurd h (List.cons_ne_nil _ _), fun h => ?_⟩
    obtain ⟨hreceiver, hmethod, gap, hgap, ht⟩ := opening?_eq_some_iff.1 ho
    refine (h _ ⟨[], o.behind, ?_⟩ ⟨o.receiver, o.method, gap, hreceiver, hmethod, hgap, rfl⟩).elim
    rw [ht]
    simp
  | case3 c rest ho ih =>
    refine ih.trans ⟨fun h opener hopener => ?_, fun h opener hopener =>
      h opener (hopener.trans (List.suffix_cons c rest).isInfix)⟩
    rcases List.infix_cons_iff.1 hopener with ⟨u, hu⟩ | hopener
    · rintro ⟨receiver, method, gap, hreceiver, hmethod, hgap, rfl⟩
      have hsome : opening? (c :: rest) = some ⟨receiver, method, u⟩ :=
        opening?_eq_some_iff.2 ⟨hreceiver, hmethod, gap, hgap, by rw [← hu]; simp⟩
      exact Option.some_ne_none _ (hsome.symm.trans ho)
    · exact h opener hopener

/-! ### Cuts -/

/-- A callee, and the arguments after its opening bracket. -/
structure Call extends Callee where
  arguments : Text

namespace Call

/-- A call cuts a text if the text is the callee, an opening bracket and the
arguments, the callee is whole, and nothing in the arguments opens a call. -/
structure Cuts (call : Call) (left : Text) : Prop where
  text : left = call.toCallee.text ++ CodePoint.ofChar '(' :: call.arguments
  whole : call.toCallee.IsWhole
  innermost : ∀ opener, opener <:+: call.arguments → ¬ IsOpener opener

variable {call call' : Call} {left : Text}

/-- Of two cuts with callees of which one begins with the other, both are the same:
the arguments of the shorter one would open the longer one. -/
theorem Cuts.eq_of_prefix (h : call.Cuts left) (h' : call'.Cuts left)
    (hle : call.toCallee.text <+: call'.toCallee.text) : call = call' := by
  obtain ⟨z, hz⟩ := hle
  have htext := h.text.symm.trans h'.text
  rw [← hz, List.append_assoc] at htext
  have hrest := List.append_cancel_left htext
  cases z with
  | nil =>
    obtain ⟨-, harguments⟩ := List.cons.inj hrest
    rw [List.append_nil] at hz
    have hcallee := h.whole.unique h'.whole hz
    cases call
    cases call'
    simp only at hcallee harguments
    rw [hcallee, harguments]
  | cons c z =>
    obtain ⟨rfl, harguments⟩ := List.cons.inj hrest
    obtain ⟨y, -, rfl⟩ := Text.exists_of_append_cons_eq hz h'.whole.bracket_not_mem
    refine (h.innermost _ ⟨y, call'.arguments, ?_⟩ ⟨call'.receiver, call'.method, call'.gap,
      h'.whole.receiver, h'.whole.method, h'.whole.gap, rfl⟩).elim
    rw [harguments]
    simp

/-- **A text has one cut at most.** -/
theorem Cuts.unique (h : call.Cuts left) (h' : call'.Cuts left) : call = call' := by
  have hbegin : call.toCallee.text <+: left := ⟨_, h.text.symm⟩
  have hbegin' : call'.toCallee.text <+: left := ⟨_, h'.text.symm⟩
  rcases List.prefix_or_prefix_of_prefix hbegin hbegin' with hle | hle
  · exact h.eq_of_prefix h' hle
  · exact (h'.eq_of_prefix h hle).symm

/-- A call that cuts a text begins in that text. -/
theorem Cuts.openings_ne_nil (h : call.Cuts left) : openings left ≠ [] := by
  refine fun hnil => openings_eq_nil_iff.1 hnil _ ⟨call.before, call.arguments, ?_⟩
    ⟨call.receiver, call.method, call.gap, h.whole.receiver, h.whole.method, h.whole.gap, rfl⟩
  rw [h.text]
  simp [Callee.text]

/-- The same call with more text before it. -/
def behind (call : Call) (lead : Text) : Call := { call with before := lead ++ call.before }

/-- A call cuts more text before it too, unless its receiver goes on there. -/
theorem Cuts.behind (h : call.Cuts left) (lead : Text)
    (hlead : call.before = [] → ∀ d ∈ lead.getLast?, d.isWord = false) :
    (call.behind lead).Cuts (lead ++ left) := by
  refine ⟨?_, ⟨h.whole.receiver, h.whole.method, h.whole.gap, ?_⟩, h.innermost⟩
  · rw [h.text]
    simp [Call.behind, Callee.text]
  · show ∀ d ∈ (lead ++ call.before).getLast?, d.isWord = false
    cases hbefore : call.before.getLast? with
    | none =>
      have hnil := List.getLast?_eq_none_iff.1 hbefore
      rw [hnil, List.append_nil]
      exact hlead hnil
    | some e =>
      rw [List.getLast?_append, hbefore, Option.some_or, ← hbefore]
      exact h.whole.before

end Call

/-! ### The last call -/

/-- **The last call that is found cuts the text.** -/
theorem exists_cuts_of_getLast?_openings {t : Text} {o : Opening}
    (h : (openings t).getLast? = some o) :
    ∃ call : Call, call.Cuts t ∧ call.receiver = o.receiver ∧ call.method = o.method ∧
      call.arguments = o.behind := by
  fun_induction openings t with
  | case1 => simp at h
  | case2 c rest first hfirst ih =>
    obtain ⟨hreceiver, hmethod, gap, hgap, ht⟩ := opening?_eq_some_iff.1 hfirst
    cases hlast : (openings first.behind).getLast? with
    | none =>
      have hnil := List.getLast?_eq_none_iff.1 hlast
      rw [hnil, List.getLast?_singleton] at h
      obtain rfl := Option.some.inj h
      refine ⟨⟨⟨[], first.receiver, first.method, gap⟩, first.behind⟩,
        ⟨?_, ⟨hreceiver, hmethod, hgap, by simp⟩, openings_eq_nil_iff.1 hnil⟩, rfl, rfl, rfl⟩
      rw [ht]
      simp [Callee.text]
    | some last =>
      rw [List.getLast?_cons, hlast, Option.getD_some] at h
      obtain rfl := Option.some.inj h
      obtain ⟨call, hcut, hnames⟩ := ih hlast
      have hlead : c :: rest = ((first.receiver ++ CodePoint.ofChar '.' :: (first.method ++ gap)) ++
          [CodePoint.ofChar '(']) ++ first.behind := by
        rw [ht]
        simp
      rw [hlead]
      refine ⟨_, hcut.behind _ fun _ d hd => ?_, hnames⟩
      rw [List.getLast?_concat] at hd
      obtain rfl := Option.some.inj hd
      decide
  | case3 c rest hnone ih =>
    obtain ⟨call, hcut, hnames⟩ := ih h
    refine ⟨_, hcut.behind [c] fun hbefore d hd => ?_, hnames⟩
    obtain rfl : c = d := Option.some.inj hd
    cases hc : c.isWord with
    | false => rfl
    | true =>
      -- The search would have found the call here, with a longer receiver.
      have hword : Text.IsWord (c :: call.receiver) :=
        ⟨List.cons_ne_nil _ _, List.forall_mem_cons.2 ⟨hc, hcut.whole.receiver.isWord⟩⟩
      have hsome : opening? (c :: rest) =
          some ⟨c :: call.receiver, call.method, call.arguments⟩ := by
        refine opening?_eq_some_iff.2 ⟨hword, hcut.whole.method, call.gap, hcut.whole.gap, ?_⟩
        rw [hcut.text]
        simp [Callee.text, hbefore]
      exact absurd (hsome.symm.trans hnone) (Option.some_ne_none _)

/-- **The search ends with the call that cuts the text**, and finds none if none does. -/
theorem getLast?_openings_eq_some_iff {t : Text} {o : Opening} :
    (openings t).getLast? = some o ↔
      ∃ call : Call, call.Cuts t ∧ call.receiver = o.receiver ∧ call.method = o.method ∧
        call.arguments = o.behind := by
  refine ⟨exists_cuts_of_getLast?_openings, ?_⟩
  rintro ⟨call, hcut, hreceiver, hmethod, harguments⟩
  cases hlast : (openings t).getLast? with
  | none => exact absurd (List.getLast?_eq_none_iff.1 hlast) hcut.openings_ne_nil
  | some last =>
    obtain ⟨call', hcut', hreceiver', hmethod', harguments'⟩ :=
      exists_cuts_of_getLast?_openings hlast
    obtain rfl := hcut.unique hcut'
    cases o
    cases last
    simp only at hreceiver hmethod harguments hreceiver' hmethod' harguments'
    rw [← hreceiver, ← hmethod, ← harguments, hreceiver', hmethod', harguments']

/-- **The context in a call** is that of the call that cuts the text left of the cursor. -/
theorem callAt_eq_call_iff {line receiver method : Text} {cursor active : Int} :
    callAt line cursor = .call receiver method active ↔
      ∃ call : Call, call.Cuts (before line cursor) ∧ call.receiver = receiver ∧
        call.method = method ∧ (call.arguments.count (CodePoint.ofChar ',') : Int) = active := by
  unfold callAt
  constructor
  · intro h
    cases hlast : (openings (before line cursor)).getLast? with
    | none =>
      rw [hlast] at h
      cases h
    | some o =>
      rw [hlast] at h
      obtain ⟨call, hcut, hreceiver, hmethod, harguments⟩ := exists_cuts_of_getLast?_openings hlast
      obtain ⟨rfl, rfl, rfl⟩ := Context.call.inj h
      exact ⟨call, hcut, hreceiver, hmethod, by rw [harguments]⟩
  · rintro ⟨call, hcut, rfl, rfl, rfl⟩
    have hlast : (openings (before line cursor)).getLast? =
        some ⟨call.receiver, call.method, call.arguments⟩ :=
      getLast?_openings_eq_some_iff.2 ⟨call, hcut, rfl, rfl, rfl⟩
    rw [hlast]

/-- **The argument at the cursor is numbered** by no more than the characters of the line. -/
theorem natAbs_active_le_of_callAt {line receiver method : Text} {cursor active : Int}
    (h : callAt line cursor = .call receiver method active) : active.natAbs ≤ line.length := by
  obtain ⟨call, hcut, -, -, rfl⟩ := callAt_eq_call_iff.1 h
  have hlength : (before line cursor).length =
      call.toCallee.text.length + (call.arguments.length + 1) := by
    rw [hcut.text, List.length_append, List.length_cons]
  calc (call.arguments.count (CodePoint.ofChar ',') : Int).natAbs
      = call.arguments.count (CodePoint.ofChar ',') := Int.natAbs_natCast _
    _ ≤ call.arguments.length := List.count_le_length
    _ ≤ (before line cursor).length := by omega
    _ ≤ line.length := List.length_take_le' _ _

end Context
end ApiGuide
