/-
# The pattern of an annotated parameter

A name with an annotation is what this pattern fits, searched for in a trimmed token:

| part | takes | as |
| --- | --- | --- |
| `group (oneOrMore word)` | the name | a word, whole or in part |
| `sign ':'` | the colon, with blanks around it | |
| `group (oneOrFew ≠ '=')` | the annotation | something without an equals sign |
| `maybe (sign '=', group (oneOrMore ≠ LF))` | the default | something on one line |
| `stop` | nothing | the end of the token |

The parts may share the blanks and the word out among themselves in several ways, but
all ways from one position give the same parameter (`annotated?_of_fits`), so neither
greed nor the order of the ways matters: the search finds what `annotated?` reads
(`annotated?_eq_search?`), which is the parameter around the first admissible colon
(`ofToken?_around_first_colon`).
-/

import ApiGuide.Proofs.Signature.Annotation
import ApiGuide.Proofs.Text.Pattern

namespace ApiGuide
namespace Parameter

/-- A sign with blanks around it. -/
def sign (c : Char) : Pattern :=
  .cat (.many CodePoint.isBlank)
    (.cat (.one (· = CodePoint.ofChar c)) (.many CodePoint.isBlank))

/-- An equals sign and a default on one line. -/
def defaultPattern : Pattern := .cat (sign '=') (.group (.oneOrMore (· ≠ CodePoint.lineFeed)))

/-- A name, a colon, an annotation and perhaps a default, up to the end of the text. -/
def annotatedPattern : Pattern :=
  .cat (.group (.oneOrMore CodePoint.isWord)) (.cat (sign ':')
    (.cat (.group (.oneOrFew (· ≠ CodePoint.ofChar '='))) (.cat (.maybe defaultPattern) .stop)))

/-- The parameter that the groups of the pattern note. -/
def ofGroups? : List Text → Option Parameter
  | [name, type] => some ⟨name, some type.trim, none⟩
  | [name, type, default] =>
    some ⟨name, some type.trim, if default.trim = [] then none else some default.trim⟩
  | _ => none

/-- The parameter that a search for the pattern finds in a token. -/
def search? (token : Text) : Option Parameter :=
  (annotatedPattern.search? token).bind (ofGroups? ·.groups)

variable {token t rest behind : Text} {groups : List Text} {c : CodePoint}

/-! ### What the parts fit -/

/-- A sign fits with blanks on both sides of it. -/
theorem fits_sign_iff {s : Char} : (sign s).Fits t groups rest ↔
    ∃ gap gap' : Text, t = gap ++ CodePoint.ofChar s :: (gap' ++ rest) ∧ groups = [] ∧
      gap.IsGap ∧ gap'.IsGap := by
  constructor
  · intro h
    obtain ⟨_, _, _, hbefore, htail, rfl⟩ := Pattern.fits_cat_iff.1 h
    obtain ⟨_, _, _, hsign, hafter, rfl⟩ := Pattern.fits_cat_iff.1 htail
    obtain ⟨rfl, gap, rfl, hgap⟩ := Pattern.fits_many_iff.1 hbefore
    obtain ⟨rfl, d, hd, rfl⟩ := Pattern.fits_one_iff.1 hsign
    obtain ⟨rfl, gap', rfl, hgap'⟩ := Pattern.fits_many_iff.1 hafter
    obtain rfl := of_decide_eq_true hd
    exact ⟨gap, gap', rfl, rfl, hgap, hgap'⟩
  · rintro ⟨gap, gap', rfl, rfl, hgap, hgap'⟩
    exact (Pattern.fits_many_iff.2 ⟨rfl, gap, rfl, hgap⟩).cat
      ((Pattern.fits_one_iff.2 ⟨rfl, _, decide_eq_true rfl, rfl⟩).cat
        (Pattern.fits_many_iff.2 ⟨rfl, gap', rfl, hgap'⟩))

/-- A default fits behind an equals sign, up to the end of the line. -/
theorem fits_defaultPattern_iff : defaultPattern.Fits t groups rest ↔
    ∃ gap gap' value : Text,
      t = gap ++ CodePoint.ofChar '=' :: (gap' ++ (value ++ rest)) ∧ groups = [value] ∧
      gap.IsGap ∧ gap'.IsGap ∧ value ≠ [] ∧ CodePoint.lineFeed ∉ value := by
  constructor
  · intro h
    obtain ⟨_, _, _, hsign, hvalue, rfl⟩ := Pattern.fits_cat_iff.1 h
    obtain ⟨gap, gap', rfl, rfl, hgap, hgap'⟩ := fits_sign_iff.1 hsign
    obtain ⟨value, rfl, rfl, hne, hline⟩ := Pattern.fits_group_oneOrMore_iff.1 hvalue
    exact ⟨gap, gap', value, rfl, rfl, hgap, hgap', hne,
      fun hmem => of_decide_eq_true (hline _ hmem) rfl⟩
  · rintro ⟨gap, gap', value, rfl, rfl, hgap, hgap', hne, hline⟩
    have hline' : ∀ d ∈ value, decide (d ≠ CodePoint.lineFeed) = true :=
      fun d hd => decide_eq_true fun h => hline (h ▸ hd)
    exact (fits_sign_iff.2 ⟨gap, gap', rfl, rfl, hgap, hgap'⟩).cat
      (Pattern.fits_group_oneOrMore_iff.2 ⟨value, rfl, rfl, hne, hline'⟩)

/-- **What the pattern fits**: a word, a colon and an annotation, and then the end of the
text, or an equals sign and a default before it. -/
theorem fits_annotatedPattern_iff : annotatedPattern.Fits t groups rest ↔
    ∃ name gap gap' type behind : Text,
      t = name ++ (gap ++ CodePoint.ofChar ':' :: (gap' ++ (type ++ behind))) ∧
      name.IsWord ∧ gap.IsGap ∧ gap'.IsGap ∧ type ≠ [] ∧ CodePoint.ofChar '=' ∉ type ∧
      (rest = [] ∨ rest = [CodePoint.lineFeed]) ∧
      (groups = [name, type] ∧ behind = rest ∨
        ∃ value, groups = [name, type, value] ∧ defaultPattern.Fits behind [value] rest) := by
  constructor
  · intro h
    obtain ⟨_, _, _, hname, htail, rfl⟩ := Pattern.fits_cat_iff.1 h
    obtain ⟨_, _, _, hcolon, htail', rfl⟩ := Pattern.fits_cat_iff.1 htail
    obtain ⟨_, behind, _, htype, hend, rfl⟩ := Pattern.fits_cat_iff.1 htail'
    obtain ⟨_, _, _, hdefault, hstop, rfl⟩ := Pattern.fits_cat_iff.1 hend
    obtain ⟨name, rfl, rfl, hne, hword⟩ := Pattern.fits_group_oneOrMore_iff.1 hname
    obtain ⟨gap, gap', rfl, rfl, hgap, hgap'⟩ := fits_sign_iff.1 hcolon
    obtain ⟨type, rfl, rfl, htype, hsign⟩ := Pattern.fits_group_oneOrFew_iff.1 htype
    obtain ⟨rfl, rfl, hend⟩ := Pattern.fits_stop_iff.1 hstop
    refine ⟨name, gap, gap', type, behind, rfl, ⟨hne, hword⟩, hgap, hgap', htype,
      fun hmem => of_decide_eq_true (hsign _ hmem) rfl, hend, ?_⟩
    rcases Pattern.fits_maybe_iff.1 hdefault with hdefault | ⟨rfl, rfl⟩
    · obtain ⟨_, _, value, -, rfl, -⟩ := fits_defaultPattern_iff.1 hdefault
      exact Or.inr ⟨value, rfl, hdefault⟩
    · exact Or.inl ⟨rfl, rfl⟩
  · rintro ⟨name, gap, gap', type, behind, rfl, hname, hgap, hgap', htype, hsign, hend, hgroups⟩
    have hsign' : ∀ d ∈ type, decide (d ≠ CodePoint.ofChar '=') = true :=
      fun d hd => decide_eq_true fun h => hsign (h ▸ hd)
    have hstop : Pattern.stop.Fits rest [] rest := Pattern.fits_stop_iff.2 ⟨rfl, rfl, hend⟩
    -- The three parts in front, whatever stands behind the annotation.
    have hfront : ∀ {groups'},
        (Pattern.cat (.maybe defaultPattern) .stop).Fits behind groups' rest →
        annotatedPattern.Fits (name ++ (gap ++ CodePoint.ofChar ':' :: (gap' ++ (type ++ behind))))
          (name :: type :: groups') rest := fun h =>
      (Pattern.fits_group_oneOrMore_iff.2 ⟨name, rfl, rfl, hname.ne_nil, hname.isWord⟩).cat
        ((fits_sign_iff.2 ⟨gap, gap', rfl, rfl, hgap, hgap'⟩).cat
          ((Pattern.fits_group_oneOrFew_iff.2 ⟨type, rfl, rfl, htype, hsign'⟩).cat h))
    rcases hgroups with ⟨rfl, rfl⟩ | ⟨value, rfl, hdefault⟩
    · exact hfront ((Pattern.fits_maybe_iff.2 (Or.inr ⟨rfl, rfl⟩)).cat hstop)
    · exact hfront ((Pattern.fits_maybe_iff.2 (Or.inl hdefault)).cat hstop)

/-! ### Every way gives the same parameter -/

/-- The pattern leaves nothing of a text that does not end with a blank. -/
theorem eq_nil_of_fits (h : annotatedPattern.Fits t groups rest)
    (hlast : ∀ d ∈ t.getLast?, d.isBlank = false) : rest = [] := by
  obtain ⟨way, hway, rfl, rfl⟩ := h
  obtain ⟨_, _, _, _, _, -, -, -, -, -, -, hend, -⟩ :=
    fits_annotatedPattern_iff.1 ⟨way, hway, rfl, rfl⟩
  rcases hend with hend | hend
  · exact hend
  · rw [Pattern.eq_append_of_mem_ways hway, hend] at hlast
    exact absurd (hlast CodePoint.lineFeed (by simp)) (by decide)

/-- With blanks around it, an equals sign behind an annotation is where a default begins. -/
theorem annotation?_of_fits {gap gap' type value : Text} (hgap : gap.IsGap) (hgap' : gap'.IsGap)
    (htype : type ≠ []) (hsign : CodePoint.ofChar '=' ∉ type)
    (h : defaultPattern.Fits behind [value] []) :
    annotation? (gap ++ CodePoint.ofChar ':' :: (gap' ++ (type ++ behind))) =
      some (type.trim, some value.trim) := by
  obtain ⟨before, after, _, rfl, hvalue, hbefore, hafter, hne, hline⟩ := fits_defaultPattern_iff.1 h
  obtain rfl := (List.cons.inj hvalue).1
  have hbody : gap' ++ (type ++ before) ≠ [] :=
    List.append_ne_nil_of_right_ne_nil _ (List.append_ne_nil_of_left_ne_nil htype _)
  have hnot : CodePoint.ofChar '=' ∉ gap' ++ (type ++ before) := by
    simp only [List.mem_append, not_or]
    exact ⟨hgap'.not_mem (by decide), hsign, hbefore.not_mem (by decide)⟩
  have hline' : CodePoint.lineFeed ∉ Text.trimStart (after ++ value) := by
    rw [Text.trimStart_append_of_isGap hafter]
    exact fun hmem => hline (Text.trimStart_subset value hmem)
  have hread := annotation?_of_default hgap hbody hnot
    (List.append_ne_nil_of_right_ne_nil after hne) hline'
  rw [Text.trim_append_append_of_isGap hgap' hbefore, Text.trim_append_of_isGap hafter] at hread
  simpa only [List.append_assoc, List.append_nil] using hread

/-- **All ways from one position give one parameter**, the one that is read there. -/
theorem annotated?_of_fits (h : annotatedPattern.Fits t groups rest)
    (hlast : ∀ d ∈ t.getLast?, d.isBlank = false) :
    ∃ p, ofGroups? groups = some p ∧ annotated? t = some p := by
  obtain rfl := eq_nil_of_fits h hlast
  obtain ⟨name, gap, gap', type, behind, rfl, hname, hgap, hgap', htype, hsign, -, hgroups⟩ :=
    fits_annotatedPattern_iff.1 h
  have hhead : ∀ d ∈ (gap ++ CodePoint.ofChar ':' :: (gap' ++ (type ++ behind))).head?,
      d.isWord = false := hgap.isWord_head?_append_cons (by decide) _
  rcases hgroups with ⟨rfl, rfl⟩ | ⟨value, rfl, hdefault⟩
  · -- The annotation goes on to the end.
    rw [List.append_nil] at hhead ⊢
    have hbody : gap' ++ type ≠ [] := List.append_ne_nil_of_right_ne_nil _ htype
    have hnot : CodePoint.ofChar '=' ∉ gap' ++ type :=
      fun hm => (List.mem_append.1 hm).elim (hgap'.not_mem (by decide)) hsign
    have hread := annotation?_of_type hgap hbody hnot
    rw [Text.trim_append_of_isGap hgap'] at hread
    exact ⟨_, rfl, annotated?_append hname hhead hread⟩
  · -- The default does, so it is not blank.
    have hread := annotation?_of_fits hgap hgap' htype hsign hdefault
    obtain ⟨before, after, _, rfl, hvalue, -, -, hne, -⟩ := fits_defaultPattern_iff.1 hdefault
    obtain rfl := (List.cons.inj hvalue).1
    have hend : value.trim ≠ [] := by
      refine Text.trim_ne_nil hne (Text.forall_getLast?_of_append (name ++ (gap ++
        CodePoint.ofChar ':' :: (gap' ++ (type ++ (before ++ CodePoint.ofChar '=' :: after)))))
        hne ?_)
      simpa only [List.append_assoc, List.cons_append, List.append_nil] using hlast
    refine ⟨_, rfl, ?_⟩
    rw [if_neg hend]
    exact annotated?_append hname hhead hread

/-! ### No reading is missed -/

/-- A default that does not end with a blank is noted without the blanks before it. -/
theorem fits_defaultPattern_trimStart {value : Text} (hne : value ≠ [])
    (hlast : ∀ d ∈ value.getLast?, d.isBlank = false)
    (hline : CodePoint.lineFeed ∉ value.trimStart) :
    defaultPattern.Fits (CodePoint.ofChar '=' :: value) [value.trimStart] [] := by
  have hblanks : Text.IsGap (value.takeWhile CodePoint.isBlank) :=
    fun d hd => List.mem_takeWhile_imp hd
  refine fits_defaultPattern_iff.2 ⟨[], _, _, ?_, rfl, Text.isGap_nil, hblanks,
    Text.trimStart_ne_nil hne hlast, hline⟩
  rw [List.nil_append, List.append_nil]
  exact congrArg _ List.takeWhile_append_dropWhile.symm

/-- **Where there is an annotation behind a word, the pattern fits.** -/
theorem exists_fits_of_annotation? {type : Text} {default : Option Text} (hc : c.isWord = true)
    (h : annotation? (t.dropWhile CodePoint.isWord) = some (type, default))
    (hlast : ∀ d ∈ (c :: t).getLast?, d.isBlank = false) :
    ∃ groups, annotatedPattern.Fits (c :: t) groups [] := by
  obtain ⟨gap, behind, hsplit, hgap, ⟨htype, hdefault⟩, -, -⟩ := annotation?_eq_some_iff.1 h
  have hword := Text.isWord_cons_takeWhile hc t
  have htext : c :: t = (c :: t.takeWhile CodePoint.isWord) ++
      (gap ++ CodePoint.ofChar ':' :: behind) := by
    rw [← hsplit, List.cons_append, List.takeWhile_append_dropWhile]
  have hsign := Text.not_mem_upTo (CodePoint.ofChar '=') behind
  cases hafter : Text.after? (CodePoint.ofChar '=') behind with
  | none =>
    have hbehind := Text.upTo_of_not_mem (Text.after?_eq_none_iff.1 hafter)
    refine ⟨_, fits_annotatedPattern_iff.2 ⟨_, gap, [], Text.upTo '=' behind, [], ?_, hword, hgap,
      Text.isGap_nil, htype, hsign, Or.inl rfl, Or.inl ⟨rfl, rfl⟩⟩⟩
    rw [htext, hbehind, List.append_nil, List.nil_append]
  | some value =>
    obtain ⟨hvalue, hline⟩ := hdefault value hafter
    have hbehind := Text.eq_upTo_append_of_after? hafter
    have hend : ∀ d ∈ value.getLast?, d.isBlank = false := by
      refine Text.forall_getLast?_of_append ((c :: t.takeWhile CodePoint.isWord) ++ (gap ++
        CodePoint.ofChar ':' :: (Text.upTo '=' behind ++ [CodePoint.ofChar '=']))) hvalue ?_
      rw [htext, hbehind] at hlast
      simpa only [List.append_assoc, List.cons_append, List.nil_append] using hlast
    refine ⟨_, fits_annotatedPattern_iff.2 ⟨_, gap, [], Text.upTo '=' behind,
      CodePoint.ofChar '=' :: value, ?_, hword, hgap, Text.isGap_nil, htype, hsign, Or.inl rfl,
      Or.inr ⟨_, rfl, fits_defaultPattern_trimStart hvalue hend hline⟩⟩⟩
    rw [htext, List.nil_append, ← hbehind]

/-! ### The search -/

/-- **The search finds what is read with an annotation**, in a text that does not end
with a blank. -/
theorem search?_cases (hlast : ∀ d ∈ t.getLast?, d.isBlank = false) :
    (∃ way p, annotatedPattern.search? t = some way ∧ ofGroups? way.groups = some p ∧
      annotated? t = some p) ∨
    (annotatedPattern.search? t = none ∧ annotated? t = none) := by
  induction t with
  | nil => exact Or.inr ⟨rfl, rfl⟩
  | cons c t ih =>
    cases hways : annotatedPattern.ways (c :: t) with
    | cons way ways =>
      have hfits : annotatedPattern.Fits (c :: t) way.groups way.rest :=
        ⟨way, by rw [hways]; exact List.mem_cons_self, rfl, rfl⟩
      obtain ⟨p, hp, hread⟩ := annotated?_of_fits hfits hlast
      refine Or.inl ⟨way, p, ?_, hp, hread⟩
      rw [Pattern.search?, hways]
      rfl
    | nil =>
      have hnone : c.isWord = true → annotation? (t.dropWhile CodePoint.isWord) = none := by
        intro hc
        rw [Option.eq_none_iff_forall_ne_some]
        rintro ⟨type, default⟩ hread
        obtain ⟨groups, way, hway, -⟩ := exists_fits_of_annotation? hc hread hlast
        rw [hways] at hway
        exact List.not_mem_nil hway
      rw [Pattern.search?, hways, annotated?_cons_of_none hnone]
      exact ih (Text.forall_getLast?_of_cons hlast)

/-- **The reading with an annotation is the search for the pattern.** -/
theorem annotated?_eq_search? (hlast : ∀ d ∈ t.getLast?, d.isBlank = false) :
    annotated? t = search? t := by
  unfold search?
  rcases search?_cases hlast with ⟨way, p, hway, hp, hread⟩ | ⟨hway, hread⟩
  · rw [hread, hway, Option.bind_some, hp]
  · rw [hread, hway, Option.bind_none]

/-- **The pattern is found exactly where the reader finds an annotation.** -/
theorem isSome_search?_iff (hlast : ∀ d ∈ t.getLast?, d.isBlank = false) :
    (annotatedPattern.search? t).isSome = true ↔ (annotated? t).isSome = true := by
  rcases search?_cases hlast with ⟨way, p, hway, -, hread⟩ | ⟨hway, hread⟩
  · rw [hway, hread]
    exact iff_of_true rfl rfl
  · rw [hway, hread]
    exact Iff.rfl

/-- Some colon of a token is admissible. -/
def HasColon (token : Text) : Prop :=
  ∃ front behind, token = front ++ CodePoint.ofChar ':' :: behind ∧ Admits front behind

/-- **A token is read around its first admissible colon**, and without one it is cut at
its first equals sign and the first colon before that. It has an annotation, and the
pattern is found in it, exactly if it has an admissible colon; what the search finds is
the parameter around the first one. -/
theorem ofToken?_around_first_colon (htrim : token.IsTrimmed) :
    ((annotatedPattern.search? token).isSome = true ↔ HasColon token) ∧
    ((∃ p, ofToken? token = some p ∧ p.type.isSome = true) ↔ HasColon token) ∧
    (HasColon token → ∃ front behind, FirstColon token front behind) ∧
    (∀ front behind, FirstColon token front behind →
      search? token = some (aroundColon front behind) ∧
      ofToken? token = some (aroundColon front behind)) ∧
    (¬ HasColon token → search? token = none ∧
      ofToken? token = if headName token = [] then none else some ⟨headName token, none,
        ((Text.after? '=' token).map Text.trim).filter (· ≠ [])⟩) := by
  rw [isSome_search?_iff htrim.last, ← annotated?_eq_search? htrim.last]
  rcases annotated?_cases token with ⟨front, behind, hfirst, hread⟩ | ⟨hread, hno⟩
  · have hcolon : HasColon token := ⟨front, behind, hfirst.text, hfirst.toAdmits⟩
    have htoken := ofToken?_of_annotated? hread
    refine ⟨iff_of_true (by rw [hread]; rfl) hcolon, iff_of_true ⟨_, htoken, rfl⟩ hcolon,
      fun _ => ⟨front, behind, hfirst⟩, fun front' behind' hfirst' => ?_,
      fun h => absurd hcolon h⟩
    obtain ⟨rfl, rfl⟩ := hfirst.unique hfirst'
    exact ⟨hread, htoken⟩
  · have hcolon : ¬ HasColon token := fun ⟨front, behind, htext, hadmits⟩ =>
      hno front behind htext hadmits
    have htoken : ofToken? token = plain? token := by
      unfold ofToken?
      rw [hread]
      rfl
    have htype : ¬ ∃ p, ofToken? token = some p ∧ p.type.isSome = true := by
      rintro ⟨p, hp, hsome⟩
      obtain ⟨-, rfl⟩ := plain?_eq_some_iff.1 (htoken.symm.trans hp)
      exact Bool.false_ne_true hsome
    refine ⟨iff_of_false (by rw [hread]; exact Bool.false_ne_true) hcolon,
      iff_of_false htype hcolon, fun h => absurd h hcolon,
      fun front behind hfirst => absurd hfirst.toAdmits (hno front behind hfirst.text),
      fun _ => ⟨hread, htoken.trans (plain?_eq_ite token)⟩⟩

/-- A colon that an equals sign follows at once, before the first admissible one; and a
token whose only colon has nothing behind the equals sign. -/
theorem ofToken?_around_first_colon_late :
    Text.IsTrimmed "a:=b : T = lambda y: y == 1" ∧ HasColon "a:=b : T = lambda y: y == 1" ∧
      (∃ front behind, FirstColon "a:=b : T = lambda y: y == 1" front behind ∧
        aroundColon front behind = ⟨"b", some ↑"T", some ↑"lambda y: y == 1"⟩) ∧
      search? "a:=b : T = lambda y: y == 1" =
        some ⟨"b", some ↑"T", some ↑"lambda y: y == 1"⟩ ∧
      Text.IsTrimmed "a: T =" ∧ ¬ HasColon "a: T =" ∧
      ofToken? "a: T =" = some ⟨"a", none, none⟩ := by
  have htrim : Text.IsTrimmed "a:=b : T = lambda y: y == 1" := by decide
  have hcolon : HasColon "a:=b : T = lambda y: y == 1" :=
    ⟨"a:=b ", " T = lambda y: y == 1", by decide, by decide, by decide, by decide⟩
  obtain ⟨-, -, hfirst, hread, -⟩ := ofToken?_around_first_colon htrim
  obtain ⟨front, behind, hfirst⟩ := hfirst hcolon
  obtain ⟨hsearch, htoken⟩ := hread front behind hfirst
  have haround : aroundColon front behind = ⟨"b", some ↑"T", some ↑"lambda y: y == 1"⟩ :=
    Option.some.inj (htoken.symm.trans (by decide))
  have htrim' : Text.IsTrimmed "a: T =" := by decide
  obtain ⟨hfound, -, -, -, hplain⟩ := ofToken?_around_first_colon htrim'
  have hno : ¬ HasColon "a: T =" := fun h => absurd (hfound.2 h) (by decide)
  exact ⟨htrim, hcolon, ⟨front, behind, hfirst, haround⟩, haround ▸ hsearch, htrim', hno,
    (hplain hno).2.trans (by decide)⟩

end Parameter
end ApiGuide
