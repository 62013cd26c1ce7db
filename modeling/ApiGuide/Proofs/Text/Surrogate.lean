/-
# Texts without surrogates

A text without surrogates can be put into octets, and no other. All that is written
here is without them: the texts of strings, numbers in every form, and what is read
from octets that are replaced where they are bad. A text that is cut from another, or
put together from others, has no surrogates but theirs.
-/

import ApiGuide.Context
import ApiGuide.Encoding.Surrogate
import ApiGuide.Encoding.Utf8
import ApiGuide.Number.Shortest
import ApiGuide.Text.Trim

namespace ApiGuide

/-! ### Characters -/

/-- Characters are no surrogates. -/
theorem CodePoint.isSurrogate_ofChar (c : Char) : (ofChar c).isSurrogate = false := by
  refine decide_eq_false fun h => ?_
  have hvalid := c.valid
  unfold UInt32.isValidChar Nat.isValidChar at hvalid
  have hlow : 0xD800 ≤ c.val.toNat := h.1
  have hhigh : c.val.toNat ≤ 0xDFFF := h.2
  omega

/-- The character of a number that is no surrogate is none. -/
theorem CodePoint.isSurrogate_ofNat {n : Nat} (h : n < 0xD800 ∨ 0xDFFF < n) :
    (ofNat n).isSurrogate = false := by
  refine decide_eq_false fun hn => ?_
  unfold ofNat at hn
  split at hn
  · simp only at hn
    omega
  · simp only at hn
    omega

namespace Text

/-- A text without surrogates. -/
def SurrogateFree (t : Text) : Prop := ∀ c ∈ t, c.isSurrogate = false

instance (t : Text) : Decidable (SurrogateFree t) :=
  inferInstanceAs (Decidable (∀ c ∈ t, c.isSurrogate = false))

/-! ### Putting together -/

/-- The empty text holds no surrogates. -/
@[simp] theorem surrogateFree_nil : SurrogateFree [] := fun _ hc => absurd hc List.not_mem_nil

/-- A text goes by its characters. -/
@[simp] theorem surrogateFree_cons {c : CodePoint} {t : Text} :
    SurrogateFree (c :: t) ↔ c.isSurrogate = false ∧ t.SurrogateFree :=
  List.forall_mem_cons

/-- A text goes by its parts. -/
@[simp] theorem surrogateFree_append {s t : Text} :
    SurrogateFree (s ++ t) ↔ s.SurrogateFree ∧ t.SurrogateFree :=
  List.forall_mem_append

/-- A text in a program holds no surrogates. -/
@[simp] theorem surrogateFree_ofString (s : String) : SurrogateFree (ofString s) := by
  intro c hc
  obtain ⟨char, -, rfl⟩ := List.mem_map.1 hc
  exact CodePoint.isSurrogate_ofChar char

/-- A text or its replacement holds no surrogates if neither does. -/
theorem surrogateFree_orElse {s t : Text} (hs : s.SurrogateFree) (ht : t.SurrogateFree) :
    SurrogateFree (s.orElse t) := by
  unfold orElse
  split
  · exact ht
  · exact hs

/-- **A text is joined without surrogates** if its parts have none, and not otherwise. -/
theorem surrogateFree_join {sep : Text} (hsep : sep.SurrogateFree) {parts : List Text} :
    SurrogateFree (join sep parts) ↔ ∀ part ∈ parts, part.SurrogateFree := by
  induction parts with
  | nil => simp [join]
  | cons part rest ih =>
    cases rest with
    | nil => simp [join]
    | cons next rest =>
      rw [List.forall_mem_cons, ← ih, join, surrogateFree_append, surrogateFree_append]
      exact ⟨fun h => ⟨h.1.1, h.2⟩, fun h => ⟨⟨h.1, hsep⟩, h.2⟩⟩

/-! ### Cutting -/

/-- A part of a text without surrogates has none. -/
theorem SurrogateFree.of_subset {s t : Text} (h : t.SurrogateFree) (hs : s ⊆ t) :
    s.SurrogateFree :=
  fun c hc => h c (hs hc)

/-- The front of a text without surrogates has none. -/
theorem SurrogateFree.take {t : Text} (h : t.SurrogateFree) (n : Nat) :
    SurrogateFree (t.take n) :=
  h.of_subset (List.take_subset n t)

/-- The end of a text without surrogates has none. -/
theorem SurrogateFree.drop {t : Text} (h : t.SurrogateFree) (n : Nat) :
    SurrogateFree (t.drop n) :=
  h.of_subset (List.drop_subset n t)

/-! ### Numbers -/

/-- A digit is no surrogate. -/
theorem isSurrogate_digit {n : Nat} (h : n < 16) : (digit n).isSurrogate = false := by
  unfold digit
  split
  · exact CodePoint.isSurrogate_ofNat (by omega)
  · exact CodePoint.isSurrogate_ofNat (by omega)

/-- Digits hold no surrogates. -/
theorem surrogateFree_digitsBefore {n : Nat} {tail : Text} (h : tail.SurrogateFree) :
    SurrogateFree (digitsBefore n tail) := by
  fun_induction digitsBefore n tail with
  | case1 n tail hn => exact surrogateFree_cons.2 ⟨isSurrogate_digit (by omega), h⟩
  | case2 n tail hn ih => exact ih (surrogateFree_cons.2 ⟨isSurrogate_digit (by omega), h⟩)

/-- A number is written without surrogates. -/
@[simp] theorem surrogateFree_ofNat (n : Nat) : SurrogateFree (ofNat n) :=
  surrogateFree_digitsBefore surrogateFree_nil

/-- An integer is written without surrogates. -/
@[simp] theorem surrogateFree_ofInt (n : Int) : SurrogateFree (ofInt n) := by
  unfold ofInt
  split
  · exact surrogateFree_cons.2 ⟨CodePoint.isSurrogate_ofChar _, surrogateFree_ofNat _⟩
  · exact surrogateFree_ofNat _

/-- A hexadecimal number is written without surrogates. -/
@[simp] theorem surrogateFree_ofHex (width n : Nat) : SurrogateFree (ofHex width n) := by
  induction width generalizing n with
  | zero => exact surrogateFree_nil
  | succ width ih =>
    have hdigit : n % 16 < 16 := Nat.mod_lt n (by decide)
    rw [ofHex, surrogateFree_append, surrogateFree_cons]
    exact ⟨ih _, isSurrogate_digit hdigit, surrogateFree_nil⟩

end Text

namespace Binary64

/-- Zeros hold no surrogates. -/
theorem surrogateFree_zeros (n : Int) : Text.SurrogateFree (zeros n) := by
  intro c hc
  obtain rfl := List.eq_of_mem_replicate hc
  exact CodePoint.isSurrogate_ofChar '0'

/-- A floating point number is written without surrogates, in either form. -/
theorem surrogateFree_positionalOrScientific (digits : Nat) (k : Int) :
    Text.SurrogateFree (positionalOrScientific digits k) := by
  have hshown := Text.surrogateFree_ofNat digits
  unfold positionalOrScientific
  simp only
  repeat' split
  all_goals simp [-List.drop_one, surrogateFree_zeros, hshown.take, hshown.drop]

/-- A floating point number is written without surrogates. -/
@[simp] theorem surrogateFree_toText (x : Binary64) : Text.SurrogateFree x.toText := by
  unfold toText
  split
  · simp
  · split <;> simp
  · simp only
    repeat' split
    all_goals simp [surrogateFree_positionalOrScientific]

end Binary64

/-! ### Octets -/

namespace Utf8

/-- A second octet keeps a character of three octets out of the surrogates, and one of
four octets behind them. -/
theorem bounds_of_fits {first : Nat} {b : UInt8} (h : fits first b = true) :
    0x80 ≤ b.toNat ∧ b.toNat ≤ 0xBF ∧ (first = 0xED → b.toNat ≤ 0x9F) ∧
      (first = 0xF0 → 0x90 ≤ b.toNat) := by
  have hrange := of_decide_eq_true h
  unfold secondRange at hrange
  repeat' split at hrange
  all_goals
    simp only at hrange
    omega

/-- What stands at the front of some octets is no surrogate. -/
theorem isSurrogate_front {first : UInt8} {octets rest : Octets} {c : CodePoint}
    (h : front first octets = .character c rest) : c.isSurrogate = false := by
  unfold front at h
  simp only at h
  repeat' split at h
  all_goals cases h
  -- characters of one to four octets, in this order
  all_goals refine CodePoint.isSurrogate_ofNat ?_
  · omega
  · unfold extend
    omega
  · rename_i b hfits _ _ _ _ _
    have hbounds := bounds_of_fits (Decidable.not_not.1 hfits)
    unfold extend
    omega
  · rename_i b hfits _ _ _ _ _ _ _ _
    have hbounds := bounds_of_fits (Decidable.not_not.1 hfits)
    unfold extend
    omega

/-- **Octets are read without surrogates** if what stands for a bad part has none. -/
theorem surrogateFree_decodeReplacingFrom {replacement : Octets → Text}
    (hreplacement : ∀ part, (replacement part).SurrogateFree) {octets : Octets} {done : Text}
    (hdone : done.SurrogateFree) : (decodeReplacingFrom replacement octets done).SurrogateFree := by
  fun_induction decodeReplacingFrom replacement octets done with
  | case1 done => exact hdone.of_subset fun c hc => List.mem_reverse.1 hc
  | case2 done first rest c after hfront ih =>
    exact ih (Text.surrogateFree_cons.2 ⟨isSurrogate_front hfront, hdone⟩)
  | case3 done first rest count flaw hfront part ih =>
    refine ih (Text.surrogateFree_append.2 ⟨?_, hdone⟩)
    exact (hreplacement part).of_subset fun c hc => List.mem_reverse.1 hc

/-- **Octets that are replaced where they are bad** are read as a text without surrogates. -/
theorem surrogateFree_decodeLossy (octets : Octets) : (decodeLossy octets).SurrogateFree :=
  surrogateFree_decodeReplacingFrom (fun _ => by decide) Text.surrogateFree_nil

end Utf8
end ApiGuide
