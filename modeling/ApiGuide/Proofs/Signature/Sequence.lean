/-
# Parameter lists one after another

Of a signature only the balanced list between its brackets is read, and a comma between
two balanced lists parts them. So the parameters of both together are those of the first
one and then those of the second one, whatever the name before the bracket and whatever
stands behind the closing one; and so on for any number of lists
(`parameters_in_sequence`). Each list may hold brackets, commas, receivers and pieces
that stand for no parameter.
-/

import ApiGuide.Proofs.Signature.Bracket

namespace ApiGuide
namespace Signature

/-- What stands around the parameter list of a signature. The first opening bracket is
the one of the list. -/
structure Enclosure where
  before : Text
  behind : Text
  bracket_not_mem : CodePoint.ofChar '(' ∉ before

/-- The signature with a parameter list. -/
def Enclosure.around (e : Enclosure) (list : Text) : Text :=
  e.before ++ CodePoint.ofChar '(' :: (list ++ CodePoint.ofChar ')' :: e.behind)

variable {a b : Text}

/-- A comma is no bracket. -/
theorem balanced_comma : Balanced [CodePoint.ofChar ','] :=
  balanced_of_not_mem (by simp) (by simp)

/-- **What stands around a balanced list** plays no part. -/
theorem parameters_around (h : Balanced a) (e : Enclosure) :
    parameters (e.around a) = (splitParameters a).filterMap Parameter.ofPiece? :=
  parameters_enclosed e.bracket_not_mem h e.behind

/-- **A comma between two balanced lists** parts their parameters. -/
theorem parameters_around_append (ha : Balanced a) (hb : Balanced b) (e e₁ e₂ : Enclosure) :
    parameters (e.around (a ++ CodePoint.ofChar ',' :: b)) =
      parameters (e₁.around a) ++ parameters (e₂.around b) := by
  have hboth : Balanced (a ++ CodePoint.ofChar ',' :: b) := ha.append (balanced_comma.append hb)
  rw [parameters_around hboth, parameters_around ha, parameters_around hb, splitParameters,
    Text.splitOn_append_cons, List.filterMap_append]
  rfl

/-- Between the brackets of no list there are no parameters. -/
theorem parameters_around_nil (e : Enclosure) : parameters (e.around []) = [] := by
  rw [parameters_around (balanced_of_not_mem List.not_mem_nil List.not_mem_nil)]
  rfl

/-- **Any number of balanced lists**, each of them in a signature of its own. -/
theorem parameters_around_join {parts : List (Enclosure × Text)}
    (h : ∀ part ∈ parts, Balanced part.2) (e : Enclosure) :
    parameters (e.around (Text.join [CodePoint.ofChar ','] (parts.map Prod.snd))) =
      parts.flatMap fun part => parameters (part.1.around part.2) := by
  induction parts with
  | nil => exact parameters_around_nil e
  | cons part parts ih =>
    obtain ⟨hpart, hparts⟩ := List.forall_mem_cons.1 h
    rw [List.map_cons, List.flatMap_cons]
    cases parts with
    | nil =>
      rw [List.map_nil, Text.join, List.flatMap_nil, List.append_nil, parameters_around hpart,
        parameters_around hpart]
    | cons next parts =>
      have hrest : Balanced (Text.join [CodePoint.ofChar ','] ((next :: parts).map Prod.snd)) :=
        balanced_comma.join (List.forall_mem_map.2 hparts)
      rw [Text.join_cons (List.map_eq_nil_iff.not.2 (List.cons_ne_nil _ _)), List.append_assoc,
        List.singleton_append, parameters_around_append hpart hrest e part.1 e, ih hparts]

/-- **Parameters are read list by list.** Two balanced lists with a comma between them
have the parameters of the first and then those of the second, and any number of balanced
lists have those of each in turn. The signature around all of them and those around each
of them are any. -/
theorem parameters_in_sequence :
    (∀ {a b : Text}, Balanced a → Balanced b → ∀ e e₁ e₂ : Enclosure,
      parameters (e.around (a ++ CodePoint.ofChar ',' :: b)) =
        parameters (e₁.around a) ++ parameters (e₂.around b)) ∧
    ∀ {parts : List (Enclosure × Text)}, (∀ part ∈ parts, Balanced part.2) → ∀ e : Enclosure,
      parameters (e.around (Text.join [CodePoint.ofChar ','] (parts.map Prod.snd))) =
        parts.flatMap fun part => parameters (part.1.around part.2) :=
  ⟨parameters_around_append, parameters_around_join⟩

/-- Lists with nested brackets and commas, a receiver, a blank piece and an annotation
that the comma in it cuts in two; in signatures with brackets behind the list. -/
theorem parameters_in_sequence_spawn :
    Balanced "self, at=f(x, (y))" ∧ Balanced ",d: Dict[str, int] = g()" ∧
      parameters "spawn(self, at=f(x, (y)),,d: Dict[str, int] = g()) -> f(x)" =
        parameters "(self, at=f(x, (y)))" ++ parameters ")m(,d: Dict[str, int] = g()))(" ∧
      parameters "(self, at=f(x, (y)))" ≠ [] := by
  have ha : Balanced "self, at=f(x, (y))" := by decide
  have hb : Balanced ",d: Dict[str, int] = g()" := by decide
  exact ⟨ha, hb, parameters_in_sequence.1 ha hb ⟨"spawn", " -> f(x)", by decide⟩
    ⟨"", "", by decide⟩ ⟨")m", ")(", by decide⟩, by decide⟩

end Signature
end ApiGuide
