/-
# What can be sent

A value can be sent if no number in it is infinite or undefined, no integer in it has too
many digits, no string and no name in it holds a surrogate, and it is not nested too deep
(`CanBeSent`). This goes by the parts of the value: an array can be sent if its items can
(`canBeSent_array`), an object if its names and values can (`canBeSent_object`), each with
one level less to nest.

No value that a service sends is nested deeper than `sentDepth`.
-/

import ApiGuide.Json.Lexeme
import ApiGuide.Json.Writer
import ApiGuide.Proofs.Text.Surrogate

namespace ApiGuide

/-! ### Writing -/

namespace Json

/-- What a character is written as holds a surrogate only if it is one. -/
theorem surrogateFree_escaped (c : CodePoint) :
    Text.SurrogateFree (escaped c) ↔ c.isSurrogate = false := by
  have hplain : ∀ char : Char, (CodePoint.ofChar char).isSurrogate = false :=
    CodePoint.isSurrogate_ofChar
  have hcontrol : c.val < 32 → c.isSurrogate = false := fun h =>
    decide_eq_false fun hc => by omega
  unfold escaped
  repeat' split
  all_goals simp_all

/-- A string without surrogates is written without surrogates. -/
@[simp] theorem surrogateFree_writeString {t : Text} :
    Text.SurrogateFree (writeString t) ↔ t.SurrogateFree := by
  unfold writeString
  rw [Text.surrogateFree_append, Text.surrogateFree_append]
  constructor
  · rintro ⟨⟨-, h⟩, -⟩ c hc
    refine (surrogateFree_escaped c).1 fun d hd => ?_
    exact h d (List.mem_flatMap.2 ⟨c, hc, hd⟩)
  · intro h
    refine ⟨⟨Text.surrogateFree_ofString _, fun d hd => ?_⟩, Text.surrogateFree_ofString _⟩
    obtain ⟨c, hc, hd⟩ := List.mem_flatMap.1 hd
    exact (surrogateFree_escaped c).2 (h c hc) d hd

/-- The items of an array are written one by one. -/
theorem writeItems_eq_map (items : List Json) : writeItems items = items.map write := by
  induction items with
  | nil => rfl
  | cons item rest ih => rw [writeItems, ih, List.map_cons]

/-- The members of an object are written one by one. -/
theorem writeMembers_eq_map (entries : List (Text × Json)) :
    writeMembers entries =
      entries.map fun entry => writeString entry.1 ++ ":" ++ write entry.2 := by
  induction entries with
  | nil => rfl
  | cons entry rest ih => rw [writeMembers, ih, List.map_cons]

/-- An array has an undefined number in it where one of its items has. -/
theorem itemsHaveUndefined_eq_any (items : List Json) :
    itemsHaveUndefined items = items.any hasUndefined := by
  induction items with
  | nil => rfl
  | cons item rest ih => rw [itemsHaveUndefined, ih, List.any_cons]

/-- An object has an undefined number in it where one of its values has. -/
theorem membersHaveUndefined_eq_any (entries : List (Text × Json)) :
    membersHaveUndefined entries = entries.any fun entry => hasUndefined entry.2 := by
  induction entries with
  | nil => rfl
  | cons entry rest ih => rw [membersHaveUndefined, ih, List.any_cons]

/-! ### Limits -/

/-- An integer with no more digits than are written. -/
def IsWritable (n : Int) : Prop := n.natAbs < Nat.pow 10 digitLimit

instance (n : Int) : Decidable (IsWritable n) := Nat.decLt _ _

/-- A number up to one that can be written can be written. -/
theorem IsWritable.of_natAbs_le {m n : Int} (h : IsWritable n) (hle : m.natAbs ≤ n.natAbs) :
    IsWritable m :=
  Nat.lt_of_le_of_lt hle h

/-- A number of so many digits can be written if these are not too many. -/
theorem isWritable_of_lt_pow {n : Int} {k : Nat} (hk : k ≤ digitLimit)
    (h : n.natAbs < Nat.pow 10 k) : IsWritable n := by
  have hmono : ∀ m, k ≤ m → Nat.pow 10 k ≤ Nat.pow 10 m :=
    fun _ => Nat.pow_le_pow_right (by decide)
  exact Nat.lt_of_lt_of_le h (hmono digitLimit hk)

/-- A number of one digit can be written. -/
theorem isWritable_of_lt_ten {n : Int} (h : n.natAbs < 10) : IsWritable n :=
  isWritable_of_lt_pow (by decide : 1 ≤ digitLimit) h

/-- Whether a value keeps to the limits for writing: arrays and objects stand in one another
at most so many levels deep, and the integers can be written. -/
def isWithin : Nat → Json → Bool
  | 0, .array _ => false
  | 0, .object _ => false
  | depth + 1, .array items => items.all (isWithin depth)
  | depth + 1, .object entries => entries.all fun entry => isWithin depth entry.2
  | _, .integer n => decide (IsWritable n)
  | _, _ => true

end Json

namespace Service

/-! ### Values that can be sent -/

/-- The levels that the deepest value of a service has: a title in the parameters of a
signature, in signature help. -/
def sentDepth : Nat := 6

/-- A value that can be sent as it is, nested at most so many levels deep. -/
structure CanBeSent (depth : Nat) (v : Json) : Prop where
  defined : v.hasUndefined = false
  surrogateFree : v.write.SurrogateFree
  within : v.isWithin depth = true

instance (depth : Nat) (v : Json) : Decidable (CanBeSent depth v) :=
  decidable_of_iff
    (v.hasUndefined = false ∧ v.write.SurrogateFree ∧ v.isWithin depth = true)
    ⟨fun h => ⟨h.1, h.2.1, h.2.2⟩, fun h => ⟨h.1, h.2, h.3⟩⟩

variable {depth : Nat}

/-- Null can be sent. -/
@[simp] theorem canBeSent_null : CanBeSent depth .null :=
  ⟨rfl, by decide, by cases depth <;> rfl⟩

/-- A truth value can be sent. -/
@[simp] theorem canBeSent_bool (b : Bool) : CanBeSent depth (.bool b) :=
  ⟨rfl, by cases b <;> decide, by cases depth <;> rfl⟩

/-- An integer can be sent if it has not too many digits. -/
@[simp] theorem canBeSent_integer {n : Int} :
    CanBeSent depth (.integer n) ↔ Json.IsWritable n := by
  have hwithin : Json.isWithin depth (.integer n) = true ↔ Json.IsWritable n := by
    cases depth <;> exact decide_eq_true_iff
  exact ⟨fun h => hwithin.1 h.within, fun h => ⟨rfl, Text.surrogateFree_ofInt n, hwithin.2 h⟩⟩

/-- A string can be sent if it holds no surrogates. -/
@[simp] theorem canBeSent_string {t : Text} : CanBeSent depth (.string t) ↔ t.SurrogateFree :=
  ⟨fun h => Json.surrogateFree_writeString.1 h.surrogateFree,
    fun h => ⟨rfl, Json.surrogateFree_writeString.2 h, by cases depth <;> rfl⟩⟩

/-- A floating point number can be sent if it is finite. -/
@[simp] theorem canBeSent_float {x : Binary64} :
    CanBeSent depth (.float x) ↔ x.isFinite = true := by
  have hdefined : Json.hasUndefined (.float x) = !x.isFinite := by rw [Json.hasUndefined]
  constructor
  · intro h
    have hfinite := h.defined
    rw [hdefined, Bool.not_eq_false'] at hfinite
    exact hfinite
  · intro h
    exact ⟨by rw [hdefined, h, Bool.not_true], x.surrogateFree_toText, by cases depth <;> rfl⟩

/-- **An array can be sent** if all its items can. -/
@[simp] theorem canBeSent_array {items : List Json} :
    CanBeSent (depth + 1) (.array items) ↔ ∀ item ∈ items, CanBeSent depth item := by
  have hwrite : Text.SurrogateFree (Json.write (.array items)) ↔
      ∀ item ∈ items, Text.SurrogateFree item.write := by
    rw [Json.write, Json.writeItems_eq_map, Text.surrogateFree_append, Text.surrogateFree_append,
      Text.surrogateFree_join (Text.surrogateFree_ofString _)]
    simp
  have hdefined : Json.hasUndefined (.array items) = false ↔
      ∀ item ∈ items, item.hasUndefined = false := by
    rw [Json.hasUndefined, Json.itemsHaveUndefined_eq_any]
    simp
  have hwithin : Json.isWithin (depth + 1) (.array items) = true ↔
      ∀ item ∈ items, item.isWithin depth = true := List.all_eq_true
  constructor
  · intro h item hitem
    exact ⟨hdefined.1 h.defined item hitem, hwrite.1 h.surrogateFree item hitem,
      hwithin.1 h.within item hitem⟩
  · intro h
    exact ⟨hdefined.2 fun item hitem => (h item hitem).defined,
      hwrite.2 fun item hitem => (h item hitem).surrogateFree,
      hwithin.2 fun item hitem => (h item hitem).within⟩

/-- **An object can be sent** if all its names and values can. -/
@[simp] theorem canBeSent_object {entries : List (Text × Json)} :
    CanBeSent (depth + 1) (.object entries) ↔
      ∀ entry ∈ entries, entry.1.SurrogateFree ∧ CanBeSent depth entry.2 := by
  have hwrite : Text.SurrogateFree (Json.write (.object entries)) ↔
      ∀ entry ∈ entries, entry.1.SurrogateFree ∧ Text.SurrogateFree entry.2.write := by
    rw [Json.write, Json.writeMembers_eq_map, Text.surrogateFree_append,
      Text.surrogateFree_append, Text.surrogateFree_join (Text.surrogateFree_ofString _),
      List.forall_mem_map]
    simp
  have hdefined : Json.hasUndefined (.object entries) = false ↔
      ∀ entry ∈ entries, entry.2.hasUndefined = false := by
    rw [Json.hasUndefined, Json.membersHaveUndefined_eq_any]
    simp
  have hwithin : Json.isWithin (depth + 1) (.object entries) = true ↔
      ∀ entry ∈ entries, entry.2.isWithin depth = true := List.all_eq_true
  constructor
  · intro h entry hentry
    have hparts := hwrite.1 h.surrogateFree entry hentry
    exact ⟨hparts.1, hdefined.1 h.defined entry hentry, hparts.2, hwithin.1 h.within entry hentry⟩
  · intro h
    exact ⟨hdefined.2 fun entry hentry => (h entry hentry).2.defined,
      hwrite.2 fun entry hentry => ⟨(h entry hentry).1, (h entry hentry).2.surrogateFree⟩,
      hwithin.2 fun entry hentry => (h entry hentry).2.within⟩

/-- What holds of a single member. -/
theorem forall_mem_entry {P : Text × Json → Prop} {name : Text} {v : Json} :
    (∀ entry ∈ Json.entry name v, P entry) ↔ P (name, v) :=
  List.forall_mem_singleton

/-- A member for a text that may be absent can be sent if the text can. -/
theorem canBeSent_textMember {name : Text} (hname : name.SurrogateFree) {t? : Option Text}
    (h : ∀ t ∈ t?, t.SurrogateFree) :
    ∀ entry ∈ Json.textEntry? name t?, entry.1.SurrogateFree ∧ CanBeSent depth entry.2 := by
  cases t? with
  | none => exact fun _ hentry => absurd hentry List.not_mem_nil
  | some t => exact forall_mem_entry.2 ⟨hname, canBeSent_string.2 (h t rfl)⟩

end Service
end ApiGuide
