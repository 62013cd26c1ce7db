/-
# Numbers that are written

A number is written as digits, one at least (`isAsciiDigit_of_mem_ofNat`,
`ofNat_ne_nil`), and they are read as the number again (`ofDigits_ofNat`): what is
written goes on before the digits that are written already.
-/

import ApiGuide.Json.Lexeme
import ApiGuide.Text.Numeral

namespace ApiGuide
namespace Text

/-- The number of a decimal digit. -/
theorem val_digit {n : Nat} (h : n < 10) : (digit n).val = 48 + n := by
  unfold digit CodePoint.ofNat
  rw [if_pos h, dif_pos (by omega)]

/-- A decimal digit is a digit. -/
theorem isAsciiDigit_digit {n : Nat} (h : n < 10) : (digit n).isAsciiDigit = true := by
  unfold CodePoint.isAsciiDigit CodePoint.asciiDigit?
  rw [val_digit h, if_pos (by omega)]
  rfl

/-- Before what is written already there are digits alone. -/
theorem isAsciiDigit_of_mem_digitsBefore {n : Nat} {tail : Text}
    (h : ∀ c ∈ tail, c.isAsciiDigit = true) :
    ∀ c ∈ digitsBefore n tail, c.isAsciiDigit = true := by
  fun_induction digitsBefore n tail with
  | case1 n tail hn => exact List.forall_mem_cons.2 ⟨isAsciiDigit_digit hn, h⟩
  | case2 n tail hn ih =>
    exact ih (List.forall_mem_cons.2 ⟨isAsciiDigit_digit (Nat.mod_lt n (by decide)), h⟩)

/-- A number is written with some digit. -/
theorem digitsBefore_ne_nil (n : Nat) (tail : Text) : digitsBefore n tail ≠ [] := by
  fun_induction digitsBefore n tail with
  | case1 n tail hn => exact List.cons_ne_nil _ _
  | case2 n tail hn ih => exact ih

/-- **Reading goes on from the number** behind the digits that are written for it. -/
theorem foldl_digitsBefore (n : Nat) (tail : Text) :
    (digitsBefore n tail).foldl (fun n c => 10 * n + (c.val - 48)) 0 =
      tail.foldl (fun n c => 10 * n + (c.val - 48)) n := by
  fun_induction digitsBefore n tail with
  | case1 n tail hn =>
    rw [List.foldl_cons, val_digit hn]
    congr 1
    omega
  | case2 n tail hn ih =>
    rw [ih, List.foldl_cons, val_digit (Nat.mod_lt n (by decide))]
    congr 1
    omega

/-! ### Alone -/

/-- A number is written with digits alone. -/
theorem isAsciiDigit_of_mem_ofNat (n : Nat) : ∀ c ∈ ofNat n, c.isAsciiDigit = true :=
  isAsciiDigit_of_mem_digitsBefore fun _ hc => absurd hc List.not_mem_nil

/-- A number is written as some text. -/
theorem ofNat_ne_nil (n : Nat) : ofNat n ≠ [] := digitsBefore_ne_nil n []

/-- **A written number is read as itself.** -/
theorem ofDigits_ofNat (n : Nat) : Json.ofDigits (ofNat n) = n := foldl_digitsBefore n []

end Text
end ApiGuide
