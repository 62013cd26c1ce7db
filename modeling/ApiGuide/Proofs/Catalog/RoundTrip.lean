/-
# Catalogs that read back

The document of a catalog reads back as the same catalog (`ofJson_toJson`), if no base
class is without a name: such names are dropped where a document is read. A catalog
that was read from a document has none (`namesBases_of_ofJson`). So a catalog that was
read once is written and read again without a loss, whatever else, null or unknown,
stood in the document that it came from.
-/

import ApiGuide.Catalog.Document
import ApiGuide.Proofs.Table

namespace ApiGuide

/-- Every base class of the class has a name. -/
def Class.NamesBases (c : Class) : Prop := ∀ base ∈ c.bases, base ≠ []

namespace Catalog

/-! ### What was read has names for the base classes -/

/-- **A class is read** member by member. -/
theorem exists_of_readClass {place : Place} {value : Json} {c : Class}
    (h : readClass place value = .ok c) :
    ∃ members, readMembers place value = .ok members ∧
      readTable readMethod (place.member "methods") (field members "methods") = .ok c.methods ∧
      readTable readProperty (place.member "properties") (field members "properties") =
        .ok c.properties ∧
      readBases (place.member "base_classes") (field members "base_classes") = .ok c.bases ∧
      readText (place.member "docstring") (field members "docstring") = .ok c.docstring := by
  unfold readClass at h
  obtain ⟨members, hmembers, h⟩ := Table.exists_of_bind_eq_ok h
  obtain ⟨methods, hmethods, h⟩ := Table.exists_of_bind_eq_ok h
  obtain ⟨properties, hproperties, h⟩ := Table.exists_of_bind_eq_ok h
  obtain ⟨bases, hbases, h⟩ := Table.exists_of_bind_eq_ok h
  obtain ⟨docstring, hdocstring, h⟩ := Table.exists_of_bind_eq_ok h
  obtain rfl := Except.ok.inj h
  exact ⟨members, hmembers, hmethods, hproperties, hbases, hdocstring⟩

/-- A class that was read names its bases. -/
theorem namesBases_of_readClass {place : Place} {value : Json} {c : Class}
    (h : readClass place value = .ok c) : c.NamesBases := by
  obtain ⟨members, -, -, -, hbases, -⟩ := exists_of_readClass h
  unfold readBases at hbases
  obtain ⟨items, -, hbases⟩ := Table.exists_of_bind_eq_ok hbases
  obtain ⟨texts, -, hbases⟩ := Table.exists_of_bind_eq_ok hbases
  intro base hbase
  rw [← Except.ok.inj hbases] at hbase
  exact of_decide_eq_true (List.mem_filter.1 hbase).2

/-- What is read under a name in a table was read at the place of that name. -/
theorem exists_of_readTable {α : Type} {read : Place → Json → Except Violation α} {place : Place}
    {value : Json} {t : Table α} (h : readTable read place value = .ok t) :
    ∀ entry ∈ t.entries, ∃ value', read (place.member entry.1) value' = .ok entry.2 := by
  unfold readTable at h
  obtain ⟨members, -, h⟩ := Table.exists_of_bind_eq_ok h
  exact Table.exists_of_readEntries (Table.traverse_eq_ok_iff.1 h)

/-- **A catalog is read** from the member `classes` of an object. -/
theorem exists_of_ofJson {document : Json} {catalog : Catalog} (h : ofJson document = .ok catalog) :
    ∃ entries value, document = .object entries ∧
      (Json.members entries).get? "classes" = some value ∧
      readTable readClass classesPlace value = .ok catalog := by
  unfold ofJson at h
  split at h
  · split at h
    · cases h
    · exact ⟨_, _, rfl, ‹_›, h⟩
  · cases h

/-- **A catalog that was read has names for all base classes.** -/
theorem namesBases_of_ofJson {document : Json} {catalog : Catalog}
    (h : ofJson document = .ok catalog) : ∀ entry ∈ catalog.entries, entry.2.NamesBases := by
  obtain ⟨entries, value, -, -, hread⟩ := exists_of_ofJson h
  intro entry hentry
  obtain ⟨value, hvalue⟩ := exists_of_readTable hread entry hentry
  exact namesBases_of_readClass hvalue

/-! ### What is written reads back -/

/-- A method is read back from its document. -/
theorem readMethod_methodToJson (place : Place) (m : Method) :
    readMethod place (methodToJson m) = .ok m :=
  rfl

/-- A property is read back from its document. -/
theorem readProperty_propertyToJson (place : Place) (p : Property) :
    readProperty place (propertyToJson p) = .ok p :=
  rfl

/-- **A table reads back** if its values do. -/
theorem readTable_tableToJson {α : Type} {read : Place → Json → Except Violation α}
    {write : Text → α → Json} {t : Table α} (place : Place)
    (h : ∀ entry ∈ t.entries, read (place.member entry.1) (write entry.1 entry.2) = .ok entry.2) :
    readTable read place (tableToJson write t) = .ok t := by
  have hnames : (t.entries.map fun entry => (entry.1, write entry.1 entry.2)).map Prod.fst =
      t.entries.map Prod.fst := by
    rw [List.map_map]
    rfl
  have hmembers : (Json.members (t.entries.map fun entry =>
      (entry.1, write entry.1 entry.2))).entries =
        t.entries.map fun entry => (entry.1, write entry.1 entry.2) :=
    Table.entries_ofList (by rw [hnames]; exact t.nodup)
  show (Json.members _).traverse _ = .ok t
  rw [Table.traverse_eq_ok_iff, hmembers]
  exact Table.readEntries_map h

/-- Strings are read back as the bases that they are. -/
theorem readBasesFrom_map_string (place : Place) (index : Nat) (bases : List Text) :
    readBasesFrom place index (bases.map .string) = .ok bases := by
  induction bases generalizing index with
  | nil => rfl
  | cons base rest ih =>
    rw [List.map_cons, readBasesFrom, ih]
    rfl

/-- Bases with names are read back from their array. -/
theorem readBases_map_string {bases : List Text} (h : ∀ base ∈ bases, base ≠ []) (place : Place) :
    readBases place (.array (bases.map .string)) = .ok bases := by
  have hfilter : bases.filter (fun base => decide (base ≠ [])) = bases :=
    List.filter_eq_self.2 fun base hbase => decide_eq_true (h base hbase)
  show (readBasesFrom place 0 (bases.map .string) >>= fun bases =>
    Except.ok (bases.filter (· ≠ []))) = .ok bases
  rw [readBasesFrom_map_string]
  exact congrArg Except.ok hfilter

/-- **A class reads back** if its base classes have names. -/
theorem readClass_classToJson {c : Class} (h : c.NamesBases) (place : Place) (name : Text) :
    readClass place (classToJson name c) = .ok c := by
  have hmethods : readTable readMethod (place.member "methods")
      (tableToJson (fun _ => methodToJson) c.methods) = .ok c.methods :=
    readTable_tableToJson _ fun entry _ => readMethod_methodToJson _ entry.2
  have hproperties : readTable readProperty (place.member "properties")
      (tableToJson (fun _ => propertyToJson) c.properties) = .ok c.properties :=
    readTable_tableToJson _ fun entry _ => readProperty_propertyToJson _ entry.2
  -- The members are looked up among names that are written out.
  show (do
    let methods ← readTable readMethod (place.member "methods")
      (tableToJson (fun _ => methodToJson) c.methods)
    let properties ← readTable readProperty (place.member "properties")
      (tableToJson (fun _ => propertyToJson) c.properties)
    let bases ← readBases (place.member "base_classes") (.array (c.bases.map .string))
    return ⟨c.docstring, bases, methods, properties⟩) = Except.ok c
  rw [hmethods, hproperties, readBases_map_string h]
  rfl

/-- **A catalog reads back** if all base classes have names. -/
theorem ofJson_toJson {catalog : Catalog} (h : ∀ entry ∈ catalog.entries, entry.2.NamesBases) :
    ofJson (toJson catalog) = .ok catalog := by
  show readTable readClass classesPlace (tableToJson classToJson catalog) = .ok catalog
  exact readTable_tableToJson _ fun entry hentry => readClass_classToJson (h entry hentry) _ _

end Catalog
end ApiGuide
