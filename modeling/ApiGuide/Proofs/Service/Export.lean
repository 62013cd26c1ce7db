/-
# What a request for a class exports

A service answers a request for a class with the document of that class, without the
methods and properties whose names are withheld from being sent (`respond_class`). Read
back as the only class of a document, the answer gives that class but for these members;
so it loses nothing if and only if no member of the class has such a name. A class whose
name is empty or holds a slash has no path, and no request gets to it
(`export_reads_back`).
-/

import ApiGuide.Proofs.Catalog.RoundTrip
import ApiGuide.Proofs.Guide.Sending
import ApiGuide.Proofs.Service.Way
import ApiGuide.Proofs.Stock.CrossOrigin
import ApiGuide.Proofs.Stock.Router
import ApiGuide.Proofs.Stock.Sending

namespace ApiGuide

/-! ### Members that are kept -/

namespace Table

variable {α : Type}

/-- The table of the entries whose names pass a test. -/
def keep (p : Text → Bool) (t : Table α) : Table α :=
  ⟨t.entries.filter fun entry => p entry.1,
    t.nodup.sublist (List.filter_sublist.map Prod.fst)⟩

/-- All of a table is kept if all its names pass the test. -/
theorem keep_eq_self_iff {p : Text → Bool} {t : Table α} :
    t.keep p = t ↔ ∀ name ∈ t.names, p name = true := by
  have hentries : t.keep p = t ↔ t.entries.filter (fun entry => p entry.1) = t.entries :=
    ⟨fun h => congrArg Table.entries h, fun h => ext_entries h⟩
  rw [hentries, List.filter_eq_self]
  simp [names]

/-- The table of one entry. -/
def single (name : Text) (a : α) : Table α := ⟨[(name, a)], by simp⟩

end Table

namespace Service

/-- Whether a member of this name is sent. -/
def isSent (name : Text) : Bool := !isWithheld name

/-- What is sent of a class. -/
def sentPart (c : Class) : Class :=
  { c with methods := c.methods.keep isSent, properties := c.properties.keep isSent }

/-- **All of a class is sent** if and only if no name of a member is withheld. -/
theorem sentPart_eq_self_iff {c : Class} :
    sentPart c = c ↔ ∀ name ∈ c.methods.names ++ c.properties.names, isWithheld name = false := by
  obtain ⟨docstring, bases, methods, properties⟩ := c
  have hsent : ∀ name, isSent name = true ↔ isWithheld name = false := fun name => by simp [isSent]
  simp only [sentPart, Class.mk.injEq, true_and, Table.keep_eq_self_iff, hsent,
    List.forall_mem_append]

/-! ### Documents that are sent -/

variable {F : Framework}

/-- Members with different names, none of them withheld, are all sent in their places. -/
theorem Framework.EncodesByParts.object_eq (h : F.EncodesByParts) {entries : List (Text × Json)}
    (names : List Text) (hnames : entries.map Prod.fst = names)
    (hsent : ∀ name ∈ names, isWithheld name = false) (hnodup : names.Nodup) :
    F.encode (.object entries) =
      .object (entries.map fun entry => (entry.1, F.encode entry.2)) := by
  have hkept : (entries.filter fun entry => !isWithheld entry.1) = entries := by
    refine List.filter_eq_self.2 fun entry hentry => ?_
    rw [hsent entry.1 (hnames ▸ List.mem_map_of_mem hentry)]
    rfl
  rw [h.object (hnames ▸ hnodup), hkept]

/-- A string is sent as it is. -/
theorem Framework.EncodesByParts.string_eq (h : F.EncodesByParts) (t : Text) :
    F.encode (.string t) = .string t :=
  h.scalar nofun nofun

/-- A truth value is sent as it is. -/
theorem Framework.EncodesByParts.bool_eq (h : F.EncodesByParts) (b : Bool) :
    F.encode (.bool b) = .bool b :=
  h.scalar nofun nofun

/-- **Of a table the members are sent whose names are not withheld**, if their values
are sent as they are. -/
theorem encode_tableToJson (hencode : F.EncodesByParts) {α : Type} {write : Text → α → Json}
    (h : ∀ name a, F.encode (write name a) = write name a) (t : Table α) :
    F.encode (Catalog.tableToJson write t) = Catalog.tableToJson write (t.keep isSent) := by
  have hnames : (t.entries.map fun entry => (entry.1, write entry.1 entry.2)).map Prod.fst =
      t.entries.map Prod.fst := by
    rw [List.map_map]
    rfl
  unfold Catalog.tableToJson
  rw [hencode.object (hnames ▸ t.nodup), List.filter_map, List.map_map]
  exact congrArg Json.object (List.map_congr_left fun entry _ => Prod.ext rfl (h _ _))

/-- A method is sent as it is. -/
theorem encode_methodToJson (hencode : F.EncodesByParts) (m : Method) :
    F.encode (Catalog.methodToJson m) = Catalog.methodToJson m := by
  unfold Catalog.methodToJson
  rw [hencode.object_eq ["signature", "docstring"] rfl (by decide) (by decide)]
  simp only [List.map_cons, List.map_nil, hencode.string_eq]

/-- A property is sent as it is. -/
theorem encode_propertyToJson (hencode : F.EncodesByParts) (p : Property) :
    F.encode (Catalog.propertyToJson p) = Catalog.propertyToJson p := by
  unfold Catalog.propertyToJson
  rw [hencode.object_eq ["docstring", "readable", "writable"] rfl (by decide) (by decide)]
  simp only [List.map_cons, List.map_nil, hencode.string_eq, hencode.bool_eq]

/-- **What is sent for the document of a class** is the document of what is sent of it. -/
theorem encode_classToJson (hencode : F.EncodesByParts) (name : Text) (c : Class) :
    F.encode (Catalog.classToJson name c) = Catalog.classToJson name (sentPart c) := by
  have hmethods := encode_tableToJson hencode
    (fun _ m => encode_methodToJson hencode m) c.methods
  have hproperties := encode_tableToJson hencode
    (fun _ p => encode_propertyToJson hencode p) c.properties
  have hbases : F.encode (.array (c.bases.map .string)) = .array (c.bases.map .string) := by
    rw [hencode.array, List.map_map]
    exact congrArg Json.array (List.map_congr_left fun base _ => hencode.string_eq base)
  unfold Catalog.classToJson
  rw [hencode.object_eq ["name", "docstring", "base_classes", "methods", "properties"] rfl
    (by decide) (by decide)]
  simp only [List.map_cons, List.map_nil, hencode.string_eq, hbases, hmethods, hproperties]
  rfl

/-! ### The way of a request -/

/-- A request for the class of a name that the guard lets through. -/
structure AsksForClass (F : Framework) (s : Settings) (r : Request) (name : Text) : Prop where
  passes : F.Passes s r
  method : r.method = "GET"
  path : r.path = Endpoint.classPath ++ name
  name_ne_nil : name ≠ []
  slash_not_mem : CodePoint.ofChar '/' ∉ name

/-- A request for a class reaches it. -/
theorem AsksForClass.reaches (hroute : F.RoutesByPath) (hpreflight : F.AnswersPreflights)
    {s : Settings} {r : Request} {name : Text} (h : AsksForClass F s r name) :
    F.Reaches s r (.classNamed name) := by
  refine ⟨h.passes, ?_, hroute.given ⟨h.name_ne_nil, h.slash_not_mem⟩ h.method h.path⟩
  cases hcrossing : F.crossing s.policy r with
  | passed complete => exact ⟨complete, rfl⟩
  | answered response =>
    have hoptions := hpreflight.method hcrossing
    rw [h.method] at hoptions
    exact absurd hoptions (by decide)

/-- **The answer to a request for a class** is the document of what is sent of it. -/
theorem respond_class (hroute : F.RoutesByPath) (hpreflight : F.AnswersPreflights)
    (hencode : F.EncodesByParts) (hrender : F.RendersValues) {s : Service} {r : Request}
    {catalog : Catalog} {name : Text} {c : Class} (hcatalog : s.guide.catalog? = some catalog)
    (hget : catalog.get? name = some c) (hasks : AsksForClass F s.settings r name)
    (hname : name.SurrogateFree) (hsent : (sentPart c).SurrogateFree) :
    ∃ headers, F.respond s r =
      ⟨200, headers, .value (Catalog.classToJson name (sentPart c))⟩ := by
  have hencoded : F.encode (Catalog.classToJson name c) =
      Catalog.classToJson name (sentPart c) := encode_classToJson hencode name c
  obtain ⟨response, hresponse⟩ : ∃ response,
      F.render 200 [] (Catalog.classToJson name (sentPart c)) = .ok response :=
    hrender.sent (Catalog.canBeSent_classToJson hname hsent)
  obtain ⟨hstatus, hbody, -⟩ := hrender.kept hresponse
  have hserve : F.serve s r (.classNamed name) = .ok response := by
    simp only [Framework.serve, hcatalog, Option.bind_some, hget]
    unfold Framework.send
    rw [hencoded, hresponse]
  obtain ⟨complete, -, hanswer⟩ :=
    Framework.exists_answer_of_reaches (hasks.reaches hroute hpreflight)
  refine ⟨complete response.headers, ?_⟩
  unfold Framework.respond
  rw [hanswer, hserve, ← hstatus, ← hbody]
  rfl

/-! ### Reading back -/

/-- **Export and import.** A catalog that was read from a document is read again from its
own document. The answer to a request for one of its classes, read as the only class of
a document, is that class but for the members whose names are withheld; so nothing is
lost if and only if there are none. Only a class that has a path can be asked for. -/
theorem export_reads_back {F : Framework} (hroute : F.RoutesByPath)
    (hpreflight : F.AnswersPreflights) (hencode : F.EncodesByParts) (hrender : F.RendersValues)
    {document : Json} {catalog : Catalog} (h : Catalog.ofJson document = .ok catalog) :
    Catalog.ofJson (Catalog.toJson catalog) = .ok catalog ∧
    ∀ (s : Service) (name : Text) (c : Class),
      s.guide.catalog? = some catalog → catalog.get? name = some c →
      (name = [] ∨ CodePoint.ofChar '/' ∈ name →
        ∀ r : Request, ¬ F.Reaches s.settings r (.classNamed name)) ∧
      ∀ r : Request, AsksForClass F s.settings r name →
        name.SurrogateFree → (sentPart c).SurrogateFree →
        ∃ headers body, F.respond s r = ⟨200, headers, .value body⟩ ∧
          body = Catalog.classToJson name (sentPart c) ∧
          Catalog.ofJson (.object [("classes", .object [(name, body)])]) =
            .ok (Table.single name (sentPart c)) ∧
          (sentPart c = c ↔
            ∀ member ∈ c.methods.names ++ c.properties.names, isWithheld member = false) := by
  have hbases := Catalog.namesBases_of_ofJson h
  refine ⟨Catalog.ofJson_toJson hbases, fun s name c hcatalog hget => ⟨?_, ?_⟩⟩
  · intro hunnamed r hreaches
    obtain ⟨hne, hslash⟩ := hroute.hasPath hreaches.routes
    exact hunnamed.elim hne hslash
  · intro r hasks hname hsent
    obtain ⟨headers, hrespond⟩ :=
      respond_class hroute hpreflight hencode hrender hcatalog hget hasks hname hsent
    refine ⟨headers, _, hrespond, rfl, ?_, sentPart_eq_self_iff⟩
    have hnamed : c.NamesBases := hbases _ (Table.mem_of_lookup? hget)
    have hsingle : ∀ entry ∈ (Table.single name (sentPart c)).entries, entry.2.NamesBases := by
      intro entry hentry
      obtain rfl := List.mem_singleton.1 hentry
      exact hnamed
    exact Catalog.ofJson_toJson hsingle

/-- A document of two classes, with members that are null, unknown or empty, and with a
method whose name is withheld. -/
def storeDocument : Json :=
  .object [("version", .integer 2), ("classes", .object [
    ("Shelf", .object [("docstring", .null), ("color", .bool true),
      ("base_classes", .array [.string "Box", .string "", .null]),
      ("methods", .object [("open", .object [("signature", .string "open(self)")])]),
      ("properties", .object [("size", .null)])]),
    ("Box", .object [("methods", .object [("_save", .null)])])])]

/-- The first class of the document. -/
def shelf : Class :=
  ⟨"", ["Box"], .single "open" ⟨"open(self)", ""⟩, .single "size" ⟨"", false, false⟩⟩

/-- The second class of the document. -/
def box : Class := ⟨"", [], .single "_save" ⟨"", ""⟩, .empty⟩

/-- The catalog in the document. -/
def storeCatalog : Catalog := ⟨[("Shelf", shelf), ("Box", box)], by decide⟩

/-- A service that asks for no key. -/
def storeService : Service :=
  ⟨⟨Path.ofText "c.json", "API", "python", .all, "", [], false, false, "3737"⟩,
    ⟨"API", .ok storeCatalog⟩⟩

/-- A request for a class. -/
def classRequest (name : Text) : Request :=
  ⟨"GET", "testserver", Endpoint.classPath ++ name, "", [], []⟩

/-- The service asks for no key, so any class with a path can be asked for. -/
theorem asksForClass_storeService {name : Text} (hne : name ≠ [])
    (hslash : CodePoint.ofChar '/' ∉ name) :
    AsksForClass (Stock.framework 1000) storeService.settings (classRequest name) name :=
  ⟨Or.inl rfl, rfl, rfl, hne, hslash⟩

/-- The first class is exported whole. -/
theorem export_reads_back_shelf :
    Catalog.ofJson storeDocument = .ok storeCatalog ∧
      Catalog.ofJson (Catalog.toJson storeCatalog) = .ok storeCatalog ∧
      ∃ headers, (Stock.framework 1000).respond storeService (classRequest "Shelf") =
        ⟨200, headers, .value (Catalog.classToJson "Shelf" shelf)⟩ := by
  have hread : Catalog.ofJson storeDocument = .ok storeCatalog := rfl
  have hasks : AsksForClass (Stock.framework 1000) storeService.settings
      (classRequest "Shelf") "Shelf" := asksForClass_storeService (by decide) (by decide)
  have hplain : (sentPart shelf).SurrogateFree := ⟨by decide, by decide, by decide, by decide⟩
  obtain ⟨hagain, hexport⟩ := export_reads_back (Stock.routesByPath 1000)
    (Stock.CrossOrigin.answersPreflights 1000) (Stock.encodesByParts 1000)
    (Stock.rendersValues 1000) hread
  obtain ⟨headers, body, hrespond, hbody, -, hwhole⟩ :=
    (hexport storeService "Shelf" shelf rfl rfl).2 (classRequest "Shelf") hasks (by decide) hplain
  rw [hwhole.2 (by decide)] at hbody
  exact ⟨hread, hagain, headers, hbody ▸ hrespond⟩

/-- The second class is exported without its method. -/
theorem respond_class_box :
    Catalog.ofJson storeDocument = .ok storeCatalog ∧ storeCatalog.get? "Box" = some box ∧
      AsksForClass (Stock.framework 1000) storeService.settings (classRequest "Box") "Box" ∧
      ∃ headers body, (Stock.framework 1000).respond storeService (classRequest "Box") =
          ⟨200, headers, .value body⟩ ∧
        body ≠ Catalog.classToJson "Box" box ∧
        Catalog.ofJson (.object [("classes", .object [("Box", body)])]) =
          .ok (.single "Box" ⟨"", [], .empty, .empty⟩) := by
  have hasks : AsksForClass (Stock.framework 1000) storeService.settings
      (classRequest "Box") "Box" := asksForClass_storeService (by decide) (by decide)
  have hplain : (sentPart box).SurrogateFree := ⟨by decide, by decide, by decide, by decide⟩
  obtain ⟨headers, hrespond⟩ := respond_class (Stock.routesByPath 1000)
    (Stock.CrossOrigin.answersPreflights 1000) (Stock.encodesByParts 1000)
    (Stock.rendersValues 1000) (s := storeService) rfl rfl hasks (by decide) hplain
  refine ⟨rfl, rfl, hasks, headers, _, hrespond, fun hsame => ?_, rfl⟩
  have hwritten := congrArg Json.write hsame
  revert hwritten
  decide +kernel

end Service
end ApiGuide
