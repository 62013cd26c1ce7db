/-
# The name of a parameter

A token begins with a name if a word stands at its beginning and a colon, an equals sign
or nothing behind it, blanks apart. It is read as the parameter of that name unless its
first admissible colon stands behind another word (`parameters_of_beginsWith`):

| token | read as |
| --- | --- |
| `a: T = lambda x: 1` | `a`, with the annotation `T` |
| `a = b`, `a:` | `a`, without an annotation |
| `a = lambda x: 1` | `x`, with the annotation `1` |
| `a = lambda self: 1` | no parameter, as if it were the receiver |

The name that tells receivers apart is that of the beginning in every case.
-/

import ApiGuide.Proofs.Signature.Annotation
import ApiGuide.Proofs.Signature.RoundTrip

namespace ApiGuide

namespace Parameter

variable {token name : Text}

/-- A token that begins with a name: a whole word, and behind it, blanks apart, a colon,
an equals sign or nothing. -/
structure BeginsWith (token name : Text) : Prop where
  isWord : name.IsWord
  token : ∃ gap rest, token = name ++ (gap ++ rest) ∧ gap.IsGap ∧
    ∀ c ∈ rest.head?, c = CodePoint.ofChar ':' ∨ c = CodePoint.ofChar '='

/-- **The name in front of such a token is the one that it begins with.** -/
theorem BeginsWith.headName_eq (h : BeginsWith token name) : headName token = name := by
  obtain ⟨gap, rest, rfl, hgap, hrest⟩ := h.token
  exact Signature.Written.headName_name_append h.isWord hgap hrest

/-- A trimmed token whose name in front is not that of a receiver is left out only if it
is read as one. -/
theorem ofPiece?_of_isTrimmed (htrim : token.IsTrimmed) (hne : token ≠ [])
    (hname : headName token ≠ receiver) :
    ofPiece? token = (ofToken? token).filter (·.name ≠ receiver) := by
  unfold ofPiece?
  simp only
  rw [Text.trim_of_isTrimmed htrim, if_neg (not_or_intro hne hname)]

/-- **Around its first colon** such a token is read, or left out if the word before it is
the name of the receiver. -/
theorem ofPiece?_of_firstColon {front rest : Text} (htrim : token.IsTrimmed)
    (hname : headName token ≠ receiver) (h : FirstColon token front rest) :
    ofPiece? token = if front.trimEnd.trailingWord = receiver then none
      else some (aroundColon front rest) := by
  have hne : token ≠ [] := by
    rw [h.text]
    exact List.append_ne_nil_of_right_ne_nil front (List.cons_ne_nil _ rest)
  rw [ofPiece?_of_isTrimmed htrim hne hname,
    ofToken?_of_annotated? (annotated?_eq_some_iff.2 ⟨front, rest, h, rfl⟩)]
  by_cases hself : front.trimEnd.trailingWord = receiver
  · simp [aroundColon, hself]
  · simp [aroundColon, hself]

/-- **Without a first colon** it keeps the name in front. -/
theorem ofPiece?_of_no_firstColon (htrim : token.IsTrimmed) (hne : headName token ≠ [])
    (hname : headName token ≠ receiver) (h : ∀ front rest, ¬ FirstColon token front rest) :
    ofPiece? token = some ⟨headName token, none,
      ((Text.after? '=' token).map Text.trim).filter (· ≠ [])⟩ := by
  have htoken : token ≠ [] := by
    rintro rfl
    exact hne rfl
  rw [ofPiece?_of_isTrimmed htrim htoken hname, ofToken?, annotated?_eq_none_iff.2 h]
  simp [plain?_eq hne, hname]

end Parameter

namespace Signature

open Parameter (BeginsWith FirstColon aroundColon headName receiver)

variable {token name before : Text}

/-- **A single piece between the brackets** makes one parameter at most. -/
theorem parameters_of_isPiece (hpiece : IsPiece token) (hbefore : CodePoint.ofChar '(' ∉ before)
    (behind : Text) :
    parameters (before ++ CodePoint.ofChar '(' :: (token ++ CodePoint.ofChar ')' :: behind)) =
      (Parameter.ofPiece? token).toList := by
  rw [parameters_enclosed hbefore hpiece.balanced, splitParameters,
    Text.splitOn_of_not_mem hpiece.no_comma]
  cases hread : Parameter.ofPiece? token with
  | none => rw [List.filterMap_cons_none hread]; rfl
  | some p => rw [List.filterMap_cons_some hread]; rfl

/-- **The parameter of a token that begins with a name.** It has that name if and only if
the first admissible colon of the token, if there is one, stands behind a word of that
name. Around a first colon elsewhere it is read as the parameter there, or as none if the
word is that of the receiver; without one it has what follows the first equals sign for
its default. -/
theorem parameters_of_beginsWith (hbegin : BeginsWith token name) (hname : name ≠ receiver)
    (htrim : token.IsTrimmed) (hpiece : IsPiece token) (hbefore : CodePoint.ofChar '(' ∉ before)
    (behind : Text) :
    let read := parameters
      (before ++ CodePoint.ofChar '(' :: (token ++ CodePoint.ofChar ')' :: behind))
    headName token = name ∧
      ((∃ p, read = [p] ∧ p.name = name) ↔
        ∀ front rest, FirstColon token front rest → front.trimEnd.trailingWord = name) ∧
      (∀ front rest, FirstColon token front rest →
        read = if front.trimEnd.trailingWord = receiver then [] else [aroundColon front rest]) ∧
      ((∀ front rest, ¬ FirstColon token front rest) →
        read = [⟨name, none, ((Text.after? '=' token).map Text.trim).filter (· ≠ [])⟩]) := by
  intro read
  have hhead := hbegin.headName_eq
  have hreceiver : headName token ≠ receiver := hhead.symm ▸ hname
  have hread : read = (Parameter.ofPiece? token).toList :=
    parameters_of_isPiece hpiece hbefore behind
  have hcolon : ∀ front rest, FirstColon token front rest →
      read = if front.trimEnd.trailingWord = receiver then [] else [aroundColon front rest] := by
    intro front rest hfirst
    rw [hread, Parameter.ofPiece?_of_firstColon htrim hreceiver hfirst]
    split
    · rfl
    · rfl
  have hplain : (∀ front rest, ¬ FirstColon token front rest) →
      read = [⟨name, none, ((Text.after? '=' token).map Text.trim).filter (· ≠ [])⟩] := by
    intro hno
    have hne : headName token ≠ [] := hhead.symm ▸ hbegin.isWord.ne_nil
    rw [hread, Parameter.ofPiece?_of_no_firstColon htrim hne hreceiver hno, hhead]
    rfl
  refine ⟨hhead, ⟨?_, fun hsame => ?_⟩, hcolon, hplain⟩
  · rintro ⟨p, hp, rfl⟩ front rest hfirst
    rw [hcolon front rest hfirst] at hp
    split at hp
    · exact absurd hp.symm (List.cons_ne_nil _ _)
    · rw [← (List.cons.inj hp).1]
      rfl
  · by_cases hany : ∃ front rest, FirstColon token front rest
    · obtain ⟨front, rest, hfirst⟩ := hany
      have hword := hsame front rest hfirst
      refine ⟨_, (hcolon front rest hfirst).trans (if_neg ?_), hword⟩
      rwa [hword]
    · refine ⟨_, hplain fun front rest hfirst => hany ⟨front, rest, hfirst⟩, rfl⟩

/-- With an annotation directly behind it, a name is kept whatever its default holds. -/
theorem parameters_of_beginsWith_annotated :
    BeginsWith "a : T = lambda x: \x7by: 1\x7d" "a" ∧
      parameters "f(a : T = lambda x: {y: 1}) -> b" =
        [⟨"a", some ↑"T", some ↑"lambda x: \x7by: 1\x7d"⟩] := by
  have hbegin : BeginsWith "a : T = lambda x: \x7by: 1\x7d" "a" :=
    ⟨by decide, " ", ": T = lambda x: \x7by: 1\x7d", by decide, by decide, by decide⟩
  obtain ⟨front, rest, hfirst, hcolon⟩ := Parameter.annotated?_eq_some_iff.1
    (show Parameter.annotated? "a : T = lambda x: \x7by: 1\x7d" =
      some ⟨"a", some ↑"T", some ↑"lambda x: \x7by: 1\x7d"⟩ by decide)
  have hword : front.trimEnd.trailingWord = "a" := congrArg Parameter.name hcolon
  obtain ⟨-, -, hread, -⟩ := parameters_of_beginsWith hbegin (by decide) (by decide)
    ⟨by decide, by decide⟩ (show CodePoint.ofChar '(' ∉ ("f" : Text) by decide) " -> b"
  refine ⟨hbegin, ?_⟩
  rw [← hcolon]
  exact (hread front rest hfirst).trans (if_neg (by rw [hword]; decide))

/-- A default takes the name away: the word before a colon in it is read as the name, and
if that is the name of the receiver there is no parameter at all. -/
theorem parameters_lambda :
    BeginsWith "a = lambda x: 1" "a" ∧ Text.IsTrimmed "a = lambda x: 1" ∧
      IsPiece "a = lambda x: 1" ∧ headName "a = lambda x: 1" = "a" ∧
      parameters "f(a = lambda x: 1)" = [⟨"x", some ↑"1", none⟩] ∧
      parameters "f(a = lambda self: 1)" = [] :=
  ⟨⟨by decide, " ", "= lambda x: 1", by decide, by decide, by decide⟩, by decide,
    ⟨by decide, by decide⟩, by decide, by decide, by decide⟩

end Signature
end ApiGuide
