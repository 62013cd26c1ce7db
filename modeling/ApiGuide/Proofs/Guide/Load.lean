/-
# How loading a guide ends

Loading gives no guide where the path cannot be asked for, and only there. In all
other cases there is a guide, whatever reading the file gave:

| what reading the file gave | guide | log |
| --- | --- | --- |
| octets that are JSON and hold a catalog | ready, with that catalog | its counts |
| a fault, no JSON, or JSON without a catalog | not ready, with the cause | the failure |

The cause names the step that failed (`LoadCause.Explains`), and a guide that is not
ready answers nothing, at any position of any document (`loadFrom_ends`).
-/

import ApiGuide.Guide
import ApiGuide.Proofs.Store.Path

namespace ApiGuide
namespace Catalog

/-- A catalog is in what reading a file gave if the octets are JSON, nested no deeper than
`depth`, and hold it. -/
def IsIn (catalog : Catalog) (file : Except OpenFault Octets) (depth : Nat) : Prop :=
  ∃ octets document, file = .ok octets ∧ Json.ofOctets octets depth = .ok document ∧
    ofJson document = .ok catalog

/-- A cause explains what reading a file gave if it is the fault of the step that fails
first: reading the file, reading its octets as JSON, or the document as a catalog. -/
def LoadCause.Explains (cause : LoadCause) (file : Except OpenFault Octets) (depth : Nat) :
    Prop :=
  match cause with
  | .unreadable fault => file = .error fault
  | .noDocument fault => ∃ octets, file = .ok octets ∧ Json.ofOctets octets depth = .error fault
  | .noCatalog violation => ∃ octets document, file = .ok octets ∧
      Json.ofOctets octets depth = .ok document ∧ ofJson document = .error violation

/-- **What is loaded is in the file, and the cause of a failure explains it.** -/
theorem ofFile_cases (file : Except OpenFault Octets) (depth : Nat) :
    (∃ catalog, ofFile file depth = .ok catalog ∧ catalog.IsIn file depth) ∨
      ∃ cause, ofFile file depth = .error cause ∧ cause.Explains file depth := by
  unfold ofFile
  cases file with
  | error fault => exact .inr ⟨.unreadable fault, rfl, rfl⟩
  | ok octets =>
    cases hdocument : Json.ofOctets octets depth with
    | error fault =>
      exact .inr ⟨.noDocument fault, by simp only [hdocument], octets, rfl, hdocument⟩
    | ok document =>
      cases hcatalog : ofJson document with
      | error violation =>
        refine .inr ⟨.noCatalog violation, ?_, octets, document, rfl, hdocument, hcatalog⟩
        simp only [hdocument, hcatalog]
        rfl
      | ok catalog =>
        refine .inl ⟨catalog, ?_, octets, document, rfl, hdocument, hcatalog⟩
        simp only [hdocument, hcatalog]
        rfl

/-- **An error about a file names the file**, and says that the file was not found where it
could not be read, and only there. -/
theorem error_of_ofFileAt {path : Path} {file : Except OpenFault Octets} {depth : Nat}
    {failure : LoadFailure} (h : ofFileAt path file depth = .error failure) :
    failure.error.path = some path ∧
      (failure.error.kind = .notFound ↔ ∃ fault, file = .error fault) := by
  unfold ofFileAt at h
  rcases ofFile_cases file depth with ⟨catalog, hfile, -⟩ | ⟨cause, hfile, hcause⟩
  · rw [hfile] at h
    cases h
  · rw [hfile] at h
    obtain rfl := Except.error.inj h
    refine ⟨rfl, ?_⟩
    cases cause with
    | unreadable fault => exact iff_of_true rfl ⟨fault, hcause⟩
    | noDocument fault =>
      obtain ⟨octets, rfl, -⟩ := hcause
      exact iff_of_false nofun nofun
    | noCatalog violation =>
      obtain ⟨octets, document, rfl, -⟩ := hcause
      exact iff_of_false nofun nofun

end Catalog

namespace Guide

variable {guide : Guide} {log : List LogEntry} {path : Path} {file : Except OpenFault Octets}
  {depth : Nat}

/-- A guide has the catalog in a file, and what was logged about it are its counts. -/
structure Loaded (guide : Guide) (log : List LogEntry) (file : Except OpenFault Octets)
    (depth : Nat) : Prop where
  catalog : ∃ catalog : Catalog, catalog.IsIn file depth ∧ guide.catalog? = some catalog
  ready : guide.ready = true
  failure : guide.failure? = none
  log : log = [⟨.info, guide.apiName ++ " API ready: " ++
    Text.ofNat guide.counts.classes ++ " classes, " ++ Text.ofNat guide.counts.methods ++
    " methods, " ++ Text.ofNat guide.counts.properties ++ " properties"⟩]

/-- A guide has no catalog but the failure to load it from a path, which is what was
logged; it counts nothing and answers nothing, in a document that is missing as in any
other. -/
structure Failed (guide : Guide) (log : List LogEntry) (path : Path)
    (file : Except OpenFault Octets) (depth : Nat) : Prop where
  ready : guide.ready = false
  failure : ∃ cause : Catalog.LoadCause, cause.Explains file depth ∧
    guide.failure? = some ⟨cause, path⟩ ∧
    log = [⟨.error, "Failed to load " ++ guide.apiName ++ " API definition: " ++
      (Catalog.LoadFailure.mk cause path).message⟩]
  counts : guide.counts = .zero
  complete : ∀ (text : Option Text) (line character : Int),
    guide.complete text line character = []
  signatureHelp : ∀ (text : Option Text) (line character : Int),
    guide.signatureHelp? text line character = none
  hover : ∀ (text : Option Text) (line character : Int),
    guide.hover? text line character = none

/-- Without a catalog nothing is made of any line. -/
theorem onLine?_of_catalog?_eq_none {α : Type} (h : guide.catalog? = none)
    (text : Option Text) (line : Int) (f : Catalog → Text → α) :
    guide.onLine? text line f = none := by
  rw [onLine?, h, Option.bind_none]

/-- **A guide has the catalog that its file holds.** -/
theorem loaded_of_ofFile {catalog : Catalog} (h : Catalog.ofFile file depth = .ok catalog)
    (hcatalog : catalog.IsIn file depth) (path : Path) (apiName : Text) :
    (ofFile path apiName file depth).1.Loaded (ofFile path apiName file depth).2 file depth := by
  have hfile : ofFile path apiName file depth =
      (⟨apiName, .ok catalog⟩, [report ⟨apiName, .ok catalog⟩]) := by
    simp only [ofFile, Catalog.ofFileAt, h]
    rfl
  rw [hfile]
  exact {
    catalog := ⟨catalog, hcatalog, rfl⟩
    ready := rfl
    failure := rfl
    log := rfl }

/-- **A guide keeps the cause why its file gave no catalog.** -/
theorem failed_of_ofFile {cause : Catalog.LoadCause}
    (h : Catalog.ofFile file depth = .error cause) (hcause : cause.Explains file depth)
    (path : Path)
    (apiName : Text) :
    (ofFile path apiName file depth).1.Failed (ofFile path apiName file depth).2 path file
      depth := by
  have hfile : ofFile path apiName file depth =
      (⟨apiName, .error ⟨cause, path⟩⟩, [report ⟨apiName, .error ⟨cause, path⟩⟩]) := by
    simp only [ofFile, Catalog.ofFileAt, h]
    rfl
  have hnone : (Guide.mk apiName (.error ⟨cause, path⟩)).catalog? = none := rfl
  rw [hfile]
  exact {
    ready := rfl
    failure := ⟨cause, hcause, rfl, rfl⟩
    counts := rfl
    complete := fun text line character => by
      rw [complete, onLine?_of_catalog?_eq_none hnone, Option.getD_none]
    signatureHelp := fun text line character => by
      rw [signatureHelp?, onLine?_of_catalog?_eq_none hnone, Option.join_none]
    hover := fun text line character => by
      rw [hover?, onLine?_of_catalog?_eq_none hnone, Option.join_none] }

/-- A guide is ready or it is not. -/
theorem not_loaded_and_failed :
    ¬ (guide.Loaded log file depth ∧ guide.Failed log path file depth) := by
  rintro ⟨hloaded, hfailed⟩
  exact Bool.false_ne_true (hfailed.ready.symm.trans hloaded.ready)

/-- **Loading ends without a guide exactly where the path holds a NUL character, and with
a guide that either has the catalog in the file or keeps the failure everywhere else.**
So it is however deep values may be nested. -/
theorem loadFrom_ends (files : Path → Except OpenFault Octets) {t : Text}
    (hscalar : ∀ c ∈ t, c.isSurrogate = false) (apiName : Text) (depth : Nat) :
    ((∃ fault, loadFrom files (Path.ofText t) apiName depth = .error fault) ↔
        CodePoint.ofNat 0 ∈ t) ∧
      (CodePoint.ofNat 0 ∉ t → ∃ guide log,
        loadFrom files (Path.ofText t) apiName depth = .ok (guide, log) ∧
        guide.apiName = apiName ∧
        (guide.Loaded log (files (Path.ofText t)) depth ∨
          guide.Failed log (Path.ofText t) (files (Path.ofText t)) depth) ∧
        ¬ (guide.Loaded log (files (Path.ofText t)) depth ∧
          guide.Failed log (Path.ofText t) (files (Path.ofText t)) depth)) := by
  unfold loadFrom
  rw [Path.read_ofText hscalar]
  by_cases hnul : CodePoint.ofNat 0 ∈ t
  · rw [if_pos hnul]
    exact ⟨iff_of_true ⟨.nul, rfl⟩ hnul, fun h => absurd hnul h⟩
  · rw [if_neg hnul]
    refine ⟨iff_of_false (fun ⟨_, h⟩ => nomatch h) hnul, fun _ => ?_⟩
    refine ⟨_, _, rfl, rfl, ?_, not_loaded_and_failed⟩
    obtain ⟨catalog, hfile, hcatalog⟩ | ⟨cause, hfile, hcause⟩ :=
      Catalog.ofFile_cases (files (Path.ofText t)) depth
    · exact .inl (loaded_of_ofFile hfile hcatalog _ apiName)
    · exact .inr (failed_of_ofFile hfile hcause _ apiName)

/-- A working directory with one file, a catalog of one class. -/
def actorTree : Tree where
  home := ["home"]
  directories := []
  files := [([SystemText.octets "home", SystemText.octets "carla.json"],
    SystemText.octets "\x7b\"classes\": \x7b\"Actor\": null\x7d\x7d")]

/-- In one working directory, a path round about to the catalog, a path to nothing, and a
path with a NUL character. -/
theorem loadFrom_ends_actor :
    (∃ guide log, loadFrom actorTree.octets (Path.ofText ".//carla.json") "CARLA" 1000 =
        .ok (guide, log) ∧
      guide.Loaded log (actorTree.octets (Path.ofText "carla.json")) 1000) ∧
    (∃ guide log, loadFrom actorTree.octets (Path.ofText "lost.json") "CARLA" 1000 =
        .ok (guide, log) ∧
      guide.Failed log (Path.ofText "lost.json") (.error .noSuchFile) 1000) ∧
    ∃ fault, loadFrom actorTree.octets (Path.ofText "carla\x00") "CARLA" 1000 = .error fault := by
  refine ⟨?_, ?_, ?_⟩
  · obtain ⟨guide, log, hload, -, hends, -⟩ :=
      (loadFrom_ends actorTree.octets (t := ".//carla.json") (by decide) "CARLA" 1000).2 (by decide)
    refine ⟨guide, log, hload, hends.resolve_right fun hfailed => ?_⟩
    have hready :
        (loadFrom actorTree.octets (Path.ofText ".//carla.json") "CARLA" 1000).toOption.map
          (·.1.ready) = some true := by
      decide +kernel
    rw [hload] at hready
    exact Bool.false_ne_true (hfailed.ready.symm.trans (Option.some.inj hready))
  · obtain ⟨guide, log, hload, -, hends, -⟩ :=
      (loadFrom_ends actorTree.octets (t := "lost.json") (by decide) "CARLA" 1000).2 (by decide)
    have hfile : actorTree.octets (Path.ofText "lost.json") = .error .noSuchFile := rfl
    rw [hfile] at hends
    refine ⟨guide, log, hload, hends.resolve_left fun hloaded => ?_⟩
    obtain ⟨-, ⟨octets, -, hoctets, -⟩, -⟩ := hloaded.catalog
    cases hoctets
  · exact (loadFrom_ends actorTree.octets (t := "carla\x00") (by decide) "CARLA" 1000).1.2
      (by decide)

end Guide
end ApiGuide
