/-
# Texts that cannot be sent

A surrogate has no place in UTF-8, so a text that holds one cannot be turned into
octets. The fault names the first stretch of surrogates.
-/

import ApiGuide.Text.Numeral

namespace ApiGuide
namespace Encoding

/-- The first stretch of surrogates that may not be sent: the number of characters
before it, and the surrogates, at least one. -/
structure Unsendable where
  start : Nat
  first : CodePoint
  others : Text
deriving DecidableEq

/-- The first unsendable stretch of a text whose start comes after so many
characters. A stretch begins with a surrogate that is refused and holds all
surrogates behind it. -/
def unsendableFrom? (refused : CodePoint → Bool) : (start : Nat) → Text → Option Unsendable
  | _, [] => none
  | start, c :: rest =>
    if refused c then some ⟨start, c, rest.takeWhile CodePoint.isSurrogate⟩
    else unsendableFrom? refused (start + 1) rest

/-- The first stretch of surrogates of a text. -/
def unsendable? (t : Text) : Option Unsendable := unsendableFrom? CodePoint.isSurrogate 0 t

/-- A text can be sent if none of its characters is refused, and no other. -/
theorem unsendableFrom?_eq_none_iff {refused : CodePoint → Bool} {start : Nat} {t : Text} :
    unsendableFrom? refused start t = none ↔ ∀ c ∈ t, refused c = false := by
  induction t generalizing start with
  | nil => simp [unsendableFrom?]
  | cons c rest ih =>
    by_cases hc : refused c = true
    · simp [unsendableFrom?, hc]
    · simpa [unsendableFrom?, hc] using ih

/-- A text without surrogates can be sent, and no other. -/
theorem unsendable?_eq_none_iff {t : Text} :
    unsendable? t = none ↔ ∀ c ∈ t, c.isSurrogate = false :=
  unsendableFrom?_eq_none_iff

/-- The report of an unsendable stretch. -/
def Unsendable.message (u : Unsendable) : Text :=
  let part : Text :=
    if u.others = [] then
      "character '\\u" ++ Text.ofHex 4 u.first.val ++ "' in position " ++ Text.ofNat u.start
    else "characters in position " ++ Text.ofNat u.start ++ "-" ++
      Text.ofNat (u.start + u.others.length)
  "'utf-8' codec can't encode " ++ part ++ ": surrogates not allowed"

end Encoding
end ApiGuide
