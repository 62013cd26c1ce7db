/-
# What a guide offers can be sent

A guide whose texts hold no surrogates offers values that can be sent, whatever it is
asked for: completion lists (`canBeSent_complete`), signature help
(`canBeSent_signatureHelp?`) and hovers (`canBeSent_hover?`). All their texts are put
together from those of the catalog, from the name of the API, and from fixed ones; the
words at a cursor come into them only as the names that they were found under. How deep
they are nested goes by their kind alone. Of numbers there is only that of an argument, which
is no greater than the text is long.
-/

import ApiGuide.Proofs.Context.Call
import ApiGuide.Proofs.Guide.Line
import ApiGuide.Proofs.Service.Sending
import ApiGuide.Proofs.Signature.Parts
import ApiGuide.Proofs.Table

namespace ApiGuide

open Service (CanBeSent canBeSent_object canBeSent_array canBeSent_string canBeSent_null
  canBeSent_textMember forall_mem_entry)

variable {depth : Nat}

/-! ### Catalogs without surrogates -/

/-- A class whose texts hold no surrogates. -/
structure Class.SurrogateFree (c : Class) : Prop where
  docstring : c.docstring.SurrogateFree
  bases : ∀ base ∈ c.bases, base.SurrogateFree
  methods : ∀ entry ∈ c.methods.entries,
    entry.1.SurrogateFree ∧ entry.2.signature.SurrogateFree ∧ entry.2.docstring.SurrogateFree
  properties : ∀ entry ∈ c.properties.entries,
    entry.1.SurrogateFree ∧ entry.2.docstring.SurrogateFree

/-- A catalog whose texts hold no surrogates. -/
def Catalog.SurrogateFree (catalog : Catalog) : Prop :=
  ∀ entry ∈ catalog.entries, entry.1.SurrogateFree ∧ entry.2.SurrogateFree

/-- A guide whose texts hold no surrogates. -/
structure Guide.SurrogateFree (guide : Guide) : Prop where
  apiName : guide.apiName.SurrogateFree
  catalog : ∀ catalog, guide.catalog? = some catalog → catalog.SurrogateFree
  failure : ∀ failure, guide.failure? = some failure → failure.message.SurrogateFree

/-- What is found in a catalog without surrogates has none, nor has its name. -/
theorem Catalog.SurrogateFree.of_get? {catalog : Catalog} (h : catalog.SurrogateFree) {name : Text}
    {c : Class} (hget : catalog.get? name = some c) : name.SurrogateFree ∧ c.SurrogateFree :=
  h (name, c) (Table.mem_of_lookup? hget)

/-- The document of a class without surrogates can be sent. -/
theorem Catalog.canBeSent_classToJson {name : Text} {c : Class} (hname : name.SurrogateFree)
    (hc : c.SurrogateFree) : CanBeSent (depth + 3) (classToJson name c) := by
  have hbases : CanBeSent (depth + 2) (.array (c.bases.map .string)) := by
    refine canBeSent_array.2 fun item hitem => ?_
    obtain ⟨base, hbase, rfl⟩ := List.mem_map.1 hitem
    exact canBeSent_string.2 (hc.bases base hbase)
  have hmethods : CanBeSent (depth + 2) (tableToJson (fun _ => methodToJson) c.methods) := by
    refine canBeSent_object.2 fun item hitem => ?_
    obtain ⟨entry, hentry, rfl⟩ := List.mem_map.1 hitem
    obtain ⟨hlabel, hsignature, hdocstring⟩ := hc.methods entry hentry
    exact ⟨hlabel, by simp [methodToJson, hsignature, hdocstring]⟩
  have hproperties :
      CanBeSent (depth + 2) (tableToJson (fun _ => propertyToJson) c.properties) := by
    refine canBeSent_object.2 fun item hitem => ?_
    obtain ⟨entry, hentry, rfl⟩ := List.mem_map.1 hitem
    obtain ⟨hlabel, hdocstring⟩ := hc.properties entry hentry
    exact ⟨hlabel, by simp [propertyToJson, hdocstring]⟩
  simp [classToJson, hname, hc.docstring, hbases, hmethods, hproperties]

/-- The parameters of a signature without surrogates have none. -/
theorem Parameter.PartOf.surrogateFree {p : Parameter} {t : Text} (h : p.PartOf t)
    (ht : t.SurrogateFree) : p.name.SurrogateFree ∧ (∀ u ∈ p.type, u.SurrogateFree) ∧
      ∀ u ∈ p.default, u.SurrogateFree :=
  ⟨ht.of_subset h.name, fun u hu => ht.of_subset (h.type u hu),
    fun u hu => ht.of_subset (h.default u hu)⟩

namespace Payload

/-- A title can be sent if its text can. -/
theorem canBeSent_markdown {t : Text} (h : t.SurrogateFree) :
    CanBeSent (depth + 1) (markdown t) := by
  simp [markdown, h]

/-- A block of code without surrogates has none. -/
theorem surrogateFree_codeBlock {t : Text} (h : t.SurrogateFree) : (codeBlock t).SurrogateFree := by
  simp [codeBlock, h]

/-- No surrogate is in the access to a property. -/
theorem surrogateFree_access (p : Property) : p.access.SurrogateFree := by
  unfold Property.access
  cases p.readable <;> cases p.writable <;> decide

/-! ### Completion lists -/

namespace CompletionItem

/-- An item whose texts hold no surrogates. -/
structure SurrogateFree (item : CompletionItem) : Prop where
  label : item.label.SurrogateFree
  detail : ∀ t ∈ item.detail, t.SurrogateFree
  documentation : item.documentation.SurrogateFree
  inserted : ∀ t ∈ item.insertion.text?, t.SurrogateFree

/-- An item without surrogates can be sent. -/
theorem SurrogateFree.canBeSent {item : CompletionItem} (h : item.SurrogateFree) :
    CanBeSent (depth + 2) item.toJson := by
  have hkind : item.kind.name.SurrogateFree := by cases item.kind <;> decide
  have hrank : item.kind.rank.SurrogateFree := by cases item.kind <;> decide
  have hformat : ∀ t ∈ item.insertion.format?, t.SurrogateFree := by
    cases item.insertion with
    | snippet t => exact fun _ hu => Option.some.inj hu ▸ Text.surrogateFree_ofString _
    | label | text t => exact fun _ hu => absurd hu (Option.not_mem_none _)
  have hsort : item.sortText.SurrogateFree := Text.surrogateFree_append.2 ⟨hrank, h.label⟩
  unfold toJson
  simp only [canBeSent_object, List.forall_mem_append, forall_mem_entry, canBeSent_string,
    Text.surrogateFree_ofString, h.label, hkind, hsort, canBeSent_markdown h.documentation,
    true_and, and_true]
  exact ⟨⟨canBeSent_textMember (Text.surrogateFree_ofString "detail") h.detail,
    canBeSent_textMember (Text.surrogateFree_ofString "insertText") h.inserted⟩,
    canBeSent_textMember (Text.surrogateFree_ofString "insertTextFormat") hformat⟩

/-- The item of a class without surrogates has none. -/
theorem surrogateFree_ofClass {apiName name : Text} {c : Class} (hapi : apiName.SurrogateFree)
    (hname : name.SurrogateFree) (hc : c.SurrogateFree) :
    (ofClass apiName name c).SurrogateFree where
  label := hname
  detail := fun _ ht => absurd ht (Option.not_mem_none _)
  documentation := Text.surrogateFree_orElse hc.docstring (by simp [hapi, hname])
  inserted := fun _ ht => absurd ht (Option.not_mem_none _)

/-- Placeholders for names without surrogates have none. -/
theorem surrogateFree_placeholders (number : Nat) {names : List Text}
    (h : ∀ name ∈ names, name.SurrogateFree) :
    ∀ shown ∈ placeholders number names, shown.SurrogateFree := by
  induction names generalizing number with
  | nil => exact fun _ hshown => absurd hshown List.not_mem_nil
  | cons name rest ih =>
    obtain ⟨hname, hrest⟩ := List.forall_mem_cons.1 h
    exact List.forall_mem_cons.2 ⟨by simp [placeholder, hname], ih _ hrest⟩

/-- What a method without surrogates inserts has none. -/
theorem surrogateFree_methodInsertion {name signature : Text} (hname : name.SurrogateFree)
    (hsignature : signature.SurrogateFree) :
    ∀ t ∈ (methodInsertion name signature).text?, t.SurrogateFree := by
  unfold methodInsertion
  split
  · intro t ht
    obtain rfl := Option.some.inj ht
    exact hname
  · intro t ht
    obtain rfl := Option.some.inj ht
    have hnames : ∀ shown ∈ (Signature.parameters signature).map (·.name), shown.SurrogateFree := by
      intro shown hshown
      obtain ⟨p, hp, rfl⟩ := List.mem_map.1 hshown
      exact ((Signature.partOf_parameters hp).surrogateFree hsignature).1
    have hjoin := (Text.surrogateFree_join (Text.surrogateFree_ofString ", ")).2
      (surrogateFree_placeholders 1 hnames)
    simp [snippet, hname, hjoin]

/-- The item of a method without surrogates has none. -/
theorem surrogateFree_ofMethod {name : Text} {m : Method} (hname : name.SurrogateFree)
    (hsignature : m.signature.SurrogateFree) (hdocstring : m.docstring.SurrogateFree) :
    (ofMethod name m).SurrogateFree := by
  have hshown : (m.signature.orElse (name ++ "()")).SurrogateFree :=
    Text.surrogateFree_orElse hsignature (by simp [hname])
  have hdocumentation : (m.docstring.orElse noDocumentation).SurrogateFree :=
    Text.surrogateFree_orElse hdocstring (by decide)
  refine ⟨hname, fun t ht => ?_, ?_, surrogateFree_methodInsertion hname hsignature⟩
  · obtain rfl := Option.some.inj ht
    exact hshown
  · simp [ofMethod, surrogateFree_codeBlock hshown, hdocumentation]

/-- The item of a property without surrogates has none. -/
theorem surrogateFree_ofProperty {name : Text} {p : Property} (hname : name.SurrogateFree)
    (hdocstring : p.docstring.SurrogateFree) : (ofProperty name p).SurrogateFree := by
  have haccess := surrogateFree_access p
  have hdocumentation : (p.docstring.orElse noDocumentation).SurrogateFree :=
    Text.surrogateFree_orElse hdocstring (by decide)
  refine ⟨hname, fun t ht => ?_, by simp [ofProperty, haccess, hdocumentation],
    fun t ht => absurd ht (Option.not_mem_none t)⟩
  obtain rfl := Option.some.inj ht
  refine Text.SurrogateFree.of_subset ?_ (Text.trim_subset _)
  simp [haccess]

end CompletionItem

/-- **A completion list can be sent**, item by item. -/
theorem surrogateFree_completions {apiName : Text} {catalog : Catalog}
    (hapi : apiName.SurrogateFree) (hcatalog : catalog.SurrogateFree) (context : Context) :
    ∀ item ∈ completions apiName catalog context, item.SurrogateFree := by
  have hclasses : ∀ item ∈ sorted (classItems apiName catalog), item.SurrogateFree := by
    intro item hitem
    obtain ⟨entry, hentry, rfl⟩ := List.mem_map.1 (List.mem_mergeSort.1 hitem)
    exact CompletionItem.surrogateFree_ofClass hapi (hcatalog entry hentry).1
      (hcatalog entry hentry).2
  cases context with
  | dot receiver =>
    unfold completions
    simp only
    cases hget : catalog.get? receiver with
    | none => exact fun _ hitem => absurd hitem List.not_mem_nil
    | some c =>
      have hc := (hcatalog.of_get? hget).2
      intro item hitem
      rcases List.mem_append.1 (List.mem_mergeSort.1 hitem) with hmethod | hproperty
      · obtain ⟨entry, hentry, rfl⟩ := List.mem_map.1 hmethod
        obtain ⟨hname, hsignature, hdocstring⟩ := hc.methods entry hentry
        exact CompletionItem.surrogateFree_ofMethod hname hsignature hdocstring
      · obtain ⟨entry, hentry, rfl⟩ := List.mem_map.1 hproperty
        exact CompletionItem.surrogateFree_ofProperty (hc.properties entry hentry).1
          (hc.properties entry hentry).2
  | call | word | nothing => exact hclasses

/-! ### Signature help -/

/-- A title for a text without surrogates has none. -/
theorem surrogateFree_titled {title shown : Text} (htitle : title.SurrogateFree)
    (hshown : shown.SurrogateFree) : (titled title shown).SurrogateFree := by
  unfold titled
  split
  · exact Text.surrogateFree_nil
  · simp [htitle, hshown]

/-- Help for a parameter of a signature without surrogates can be sent. -/
theorem canBeSent_parameterHelp {p : Parameter} {t : Text} (hp : p.PartOf t)
    (ht : t.SurrogateFree) : CanBeSent (depth + 2) (ParameterHelp.ofParameter p).toJson := by
  obtain ⟨hname, htype, hdefault⟩ := hp.surrogateFree ht
  have hshown : ∀ t? : Option Text, (∀ u ∈ t?, u.SurrogateFree) → (t?.getD []).SurrogateFree := by
    intro t? h
    cases t? with
    | none => exact Text.surrogateFree_nil
    | some u => exact h u rfl
  have hlabel : (ParameterHelp.ofParameter p).label.SurrogateFree := by
    unfold ParameterHelp.ofParameter
    simp only
    split
    · exact hname
    · simp [hname, hshown p.type htype]
  have hdocumentation : (ParameterHelp.ofParameter p).documentation.SurrogateFree := by
    have htyped := surrogateFree_titled (Text.surrogateFree_ofString "Type") (hshown _ htype)
    have hpreset := surrogateFree_titled (Text.surrogateFree_ofString "Default") (hshown _ hdefault)
    simp [ParameterHelp.ofParameter, hname, htyped, hpreset]
  simp [ParameterHelp.toJson, hlabel, canBeSent_markdown hdocumentation]

/-- Help for a method without surrogates can be sent. -/
theorem canBeSent_signatureHelp {m : Method} (hsignature : m.signature.SurrogateFree)
    (hdocstring : m.docstring.SurrogateFree) {active : Int} (hactive : Json.IsWritable active) :
    CanBeSent (depth + 6) (SignatureHelp.ofMethod m active).toJson := by
  have hparameters :
      ∀ help ∈ (SignatureHelp.ofMethod m active).parameters,
        CanBeSent (depth + 2) help.toJson := by
    intro help hhelp
    obtain ⟨p, hp, rfl⟩ := List.mem_map.1 hhelp
    exact canBeSent_parameterHelp (Signature.partOf_parameters hp) hsignature
  have hlabel : (SignatureHelp.ofMethod m active).label.SurrogateFree := hsignature
  have hdocumentation :
      CanBeSent (depth + 3) (markdown (SignatureHelp.ofMethod m active).documentation) :=
    canBeSent_markdown hdocstring
  have hfirst : Json.IsWritable 0 := Json.isWritable_of_lt_ten (by decide)
  have hnumber : Json.IsWritable (SignatureHelp.ofMethod m active).active := by
    refine hactive.of_natAbs_le ?_
    show (max 0 active).natAbs ≤ active.natAbs
    omega
  simpa [SignatureHelp.toJson, hlabel, hdocumentation, hfirst, hnumber] using hparameters

/-- **Signature help can be sent.** -/
theorem canBeSent_signatureHelp? {catalog : Catalog} (hcatalog : catalog.SurrogateFree)
    {context : Context} (hactive : ∀ receiver method active,
      context = .call receiver method active → Json.IsWritable active) :
    ∀ help ∈ signatureHelp? catalog context, CanBeSent (depth + 6) help.toJson := by
  intro help hhelp
  unfold signatureHelp? at hhelp
  split at hhelp
  · rename_i receiver method active
    obtain ⟨c, hget, hmethod⟩ := Option.bind_eq_some_iff.1 hhelp
    obtain ⟨m, hm, rfl⟩ := Option.map_eq_some_iff.1 hmethod
    have hc := (hcatalog.of_get? hget).2
    obtain ⟨-, hsignature, hdocstring⟩ := hc.methods _ (Table.mem_of_lookup? hm)
    exact canBeSent_signatureHelp hsignature hdocstring (hactive receiver method active rfl)
  · exact absurd hhelp (Option.not_mem_none help)

/-! ### Hovers -/

namespace Hover

/-- What is shown of a class without surrogates has none. -/
theorem surrogateFree_ofClass {apiName name : Text} {c : Class} (hapi : apiName.SurrogateFree)
    (hname : name.SurrogateFree) (hc : c.SurrogateFree) :
    (ofClass apiName name c).contents.SurrogateFree := by
  have hdocumentation : (c.docstring.orElse noDocumentation).SurrogateFree :=
    Text.surrogateFree_orElse hc.docstring (by decide)
  have hbases := (Text.surrogateFree_join (Text.surrogateFree_ofString ", ")).2 hc.bases
  simp [ofClass, hapi, hname, hdocumentation, hbases]

/-- What is shown of a method without surrogates has none. -/
theorem surrogateFree_ofMethod {owner name : Text} {m : Method} (howner : owner.SurrogateFree)
    (hname : name.SurrogateFree) (hsignature : m.signature.SurrogateFree)
    (hdocstring : m.docstring.SurrogateFree) :
    (ofMethod owner name m).contents.SurrogateFree := by
  have hdocumentation : (m.docstring.orElse noDocumentation).SurrogateFree :=
    Text.surrogateFree_orElse hdocstring (by decide)
  simp [ofMethod, howner, hname, surrogateFree_codeBlock hsignature, hdocumentation]

/-- What is shown of a property without surrogates has none. -/
theorem surrogateFree_ofProperty {owner name : Text} {p : Property} (howner : owner.SurrogateFree)
    (hname : name.SurrogateFree) (hdocstring : p.docstring.SurrogateFree) :
    (ofProperty owner name p).contents.SurrogateFree := by
  have hdocumentation : (p.docstring.orElse noDocumentation).SurrogateFree :=
    Text.surrogateFree_orElse hdocstring (by decide)
  unfold ofProperty
  simp only
  split
  · simp [howner, hname, hdocumentation]
  · simp [howner, hname, hdocumentation, surrogateFree_access p]

end Hover

/-- **What is shown over a word can be sent**: the word is a name of the catalog. -/
theorem canBeSent_hover? {apiName : Text} {catalog : Catalog} (hapi : apiName.SurrogateFree)
    (hcatalog : catalog.SurrogateFree) (context : Context) :
    ∀ shown ∈ hover? apiName catalog context, CanBeSent (depth + 2) shown.toJson := by
  have htext : ∀ shown : Hover, shown.contents.SurrogateFree →
      CanBeSent (depth + 2) shown.toJson := by
    intro shown h
    simp [Hover.toJson, canBeSent_markdown h]
  intro shown hshown
  refine htext shown ?_
  unfold hover? at hshown
  split at hshown
  · rename_i word receiver?
    split at hshown
    · rename_i c hget
      obtain rfl := Option.some.inj hshown
      obtain ⟨hword, hc⟩ := hcatalog.of_get? hget
      exact Hover.surrogateFree_ofClass hapi hword hc
    · obtain ⟨owner, -, howned⟩ := Option.bind_eq_some_iff.1 hshown
      obtain ⟨c, hget, hmember⟩ := Option.bind_eq_some_iff.1 howned
      obtain ⟨howner, hc⟩ := hcatalog.of_get? hget
      unfold Hover.ofMember? at hmember
      split at hmember
      · rename_i m hm
        obtain rfl := Option.some.inj hmember
        obtain ⟨hword, hsignature, hdocstring⟩ := hc.methods _ (Table.mem_of_lookup? hm)
        exact Hover.surrogateFree_ofMethod howner hword hsignature hdocstring
      · obtain ⟨p, hp, rfl⟩ := Option.map_eq_some_iff.1 hmember
        obtain ⟨hword, hdocstring⟩ := hc.properties _ (Table.mem_of_lookup? hp)
        exact Hover.surrogateFree_ofProperty howner hword hdocstring
  · exact absurd hshown (Option.not_mem_none shown)

end Payload

/-! ### At a position -/

namespace Guide

variable {guide : Guide}

/-- What is made of a line is made of a catalog and a line that there are. -/
theorem exists_of_onLine?_eq_some {α : Type} {text : Option Text} {line : Int}
    {f : Catalog → Text → α} {a : α} (h : guide.onLine? text line f = some a) :
    ∃ catalog current, guide.catalog? = some catalog ∧
      documentLine? (text.getD []) line = some current ∧ a = f catalog current := by
  obtain ⟨catalog, hcatalog, hline⟩ := Option.bind_eq_some_iff.1 h
  obtain ⟨current, hcurrent, rfl⟩ := Option.map_eq_some_iff.1 hline
  exact ⟨catalog, current, hcatalog, hcurrent, rfl⟩

/-- **A completion list can be sent** at any position. -/
theorem SurrogateFree.canBeSent_complete (h : guide.SurrogateFree) (text : Option Text)
    (line character : Int) :
    CanBeSent (depth + 3) (.array ((guide.complete text line character).map
      Payload.CompletionItem.toJson)) := by
  refine canBeSent_array.2 fun v hv => ?_
  obtain ⟨item, hitem, rfl⟩ := List.mem_map.1 hv
  unfold complete at hitem
  cases hon : guide.onLine? text line fun catalog current =>
      Payload.completions guide.apiName catalog (Context.dotAt current character) with
  | none =>
    rw [hon] at hitem
    exact absurd hitem List.not_mem_nil
  | some items =>
    rw [hon] at hitem
    obtain ⟨catalog, current, hcatalog, -, rfl⟩ := exists_of_onLine?_eq_some hon
    exact (Payload.surrogateFree_completions h.apiName (h.catalog catalog hcatalog) _ item
      hitem).canBeSent

/-- **Signature help can be sent** at any position, if there is a number for the length of
the text that can be written. -/
theorem SurrogateFree.canBeSent_signatureHelp? (h : guide.SurrogateFree) (text : Option Text)
    (htext : Json.IsWritable (text.getD []).length) (line character : Int) :
    ∀ help ∈ guide.signatureHelp? text line character, CanBeSent (depth + 6) help.toJson := by
  intro help hhelp
  obtain ⟨catalog, current, hcatalog, hline, hfound⟩ :=
    exists_of_onLine?_eq_some (Option.join_eq_some_iff.1 hhelp)
  refine Payload.canBeSent_signatureHelp? (h.catalog catalog hcatalog) ?_ help hfound.symm
  intro receiver method active hcall
  have hactive := (Context.natAbs_active_le_of_callAt hcall).trans
    (length_le_of_documentLine? hline)
  exact htext.of_natAbs_le hactive

/-- **A hover can be sent** at any position. -/
theorem SurrogateFree.canBeSent_hover? (h : guide.SurrogateFree) (text : Option Text)
    (line character : Int) :
    ∀ shown ∈ guide.hover? text line character, CanBeSent (depth + 2) shown.toJson := by
  intro shown hshown
  obtain ⟨catalog, current, hcatalog, -, hfound⟩ :=
    exists_of_onLine?_eq_some (Option.join_eq_some_iff.1 hshown)
  exact Payload.canBeSent_hover? h.apiName (h.catalog catalog hcatalog) _ shown hfound.symm

end Guide
end ApiGuide
