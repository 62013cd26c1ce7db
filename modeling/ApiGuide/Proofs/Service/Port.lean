/-
# Ports that can be written

A number that is read from some digits is below the power of ten with as many zeros
(`foldl_lt`). No more than `Json.digitLimit` digits are read for a port, so a service can
write it again (`isWritable_of_ofText`).
-/

import ApiGuide.Proofs.Service.Sending
import ApiGuide.Service.Port

namespace ApiGuide

/-- A digit stands for a number below ten. -/
theorem CodePoint.lt_ten_of_digitValue? {c : CodePoint} {n : Nat} (h : c.digitValue? = some n) :
    n < 10 := by
  obtain ⟨first, -, rfl⟩ := Option.map_eq_some_iff.1 h
  exact Nat.mod_lt _ (by decide)

namespace Port

/-- **The values of digits** are below ten, each of them. -/
theorem lt_ten_of_digits? {t rest : Text} {digits : List Nat}
    (h : digits? t = some (digits, rest)) : ∀ d ∈ digits, d < 10 := by
  fun_induction digits? t generalizing digits rest with
  | case1 => cases h
  | case2 c t hnone => cases h
  | case3 c n hvalue =>
    obtain ⟨rfl, -⟩ := Prod.mk.inj (Option.some.inj h)
    exact List.forall_mem_singleton.2 (CodePoint.lt_ten_of_digitValue? hvalue)
  | case4 c n hvalue d after further hunderscore =>
    rename_i hdigit
    obtain ⟨⟨others, behind⟩, hfurther, hpair⟩ := Option.map_eq_some_iff.1 h
    obtain ⟨rfl, -⟩ := Prod.mk.inj hpair
    have hothers : ∀ d ∈ others, d < 10 := by
      unfold further at hfurther
      split at hfurther
      · exact hunderscore hfurther
      · split at hfurther
        · exact hdigit hfurther
        · obtain ⟨rfl, -⟩ := Prod.mk.inj (Option.some.inj hfurther)
          exact List.forall_mem_nil _
    exact List.forall_mem_cons.2 ⟨CodePoint.lt_ten_of_digitValue? hvalue, hothers⟩

/-- **A number that goes on with some digits** is below the next number with as many zeros
behind it. -/
theorem foldl_lt {digits : List Nat} (h : ∀ d ∈ digits, d < 10) (n : Nat) :
    digits.foldl (fun n d => 10 * n + d) n < (n + 1) * Nat.pow 10 digits.length := by
  induction digits generalizing n with
  | nil => simp
  | cons d rest ih =>
    obtain ⟨hd, hrest⟩ := List.forall_mem_cons.1 h
    have hnext : 10 * n + d + 1 ≤ (n + 1) * 10 := by omega
    calc rest.foldl (fun n d => 10 * n + d) (10 * n + d)
        < (10 * n + d + 1) * Nat.pow 10 rest.length := ih hrest _
      _ ≤ (n + 1) * 10 * Nat.pow 10 rest.length := Nat.mul_le_mul_right _ hnext
      _ = (n + 1) * Nat.pow 10 (rest.length + 1) := by
        rw [Nat.mul_assoc, Nat.mul_comm 10]
        rfl

/-- **A port can be written**, since it was read. -/
theorem isWritable_of_ofText {t : Text} {port : Int} (h : ofText t = .ok port) :
    Json.IsWritable port := by
  unfold ofText at h
  simp only at h
  split at h
  · cases h
  · rename_i digits rest hdigits
    split at h
    · cases h
    · rename_i hlimit
      split at h
      · cases h
      · have hlt := foldl_lt (lt_ten_of_digits? hdigits) 0
        rw [Nat.zero_add, Nat.one_mul] at hlt
        have hwritable : Json.IsWritable (digits.foldl (fun n d => 10 * n + d) 0 : Nat) :=
          Json.isWritable_of_lt_pow (Nat.le_of_not_lt hlimit) hlt
        obtain rfl := Except.ok.inj h
        refine hwritable.of_natAbs_le ?_
        split <;> simp

end Port
end ApiGuide
