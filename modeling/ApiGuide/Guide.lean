/-
# Guides

`from_path`, `complete`, `signature_help` and `hover` in section 3.5 of the specification.

A guide answers for an API: it holds the catalog, or the failure to load it, under
the name of the API. Positions in a document are numbered from zero; lines end at
a line feed, and carriage returns do not count. A guide without a catalog has
nothing to offer, and neither is there anything on a line that does not exist.
-/

import ApiGuide.Catalog.Load
import ApiGuide.Log
import ApiGuide.Payload.Completion
import ApiGuide.Payload.Hover
import ApiGuide.Payload.SignatureHelp

namespace ApiGuide

/-- The catalog of an API, or the failure to load it. -/
structure Guide where
  apiName : Text
  catalog : Except Catalog.LoadFailure Catalog

/-- A line of a document without its carriage returns. -/
def documentLine? (text : Text) (line : Int) : Option Text :=
  if line < 0 then none
  else (Text.splitOn CodePoint.lineFeed (text.filter (· ≠ CodePoint.carriageReturn)))[line.toNat]?

namespace Guide

/-- The catalog, if it was loaded. -/
def catalog? (guide : Guide) : Option Catalog := guide.catalog.toOption

/-- The failure to load the catalog. -/
def failure? (guide : Guide) : Option Catalog.LoadFailure :=
  match guide.catalog with
  | .error failure => some failure
  | .ok _ => none

/-- Whether there is a catalog. -/
def ready (guide : Guide) : Bool := guide.catalog?.isSome

/-- The counts of the catalog, zeros without one. -/
def counts (guide : Guide) : Counts :=
  match guide.catalog? with
  | some catalog => catalog.counts
  | none => .zero

/-- What is logged when the guide is loaded: how much it holds, or why it holds nothing. -/
def report (guide : Guide) : LogEntry :=
  match guide.catalog with
  | .error failure =>
    ⟨.error, "Failed to load " ++ guide.apiName ++ " API definition: " ++ failure.message⟩
  | .ok catalog =>
    let counts := catalog.counts
    ⟨.info, guide.apiName ++ " API ready: " ++ Text.ofNat counts.classes ++ " classes, " ++
      Text.ofNat counts.methods ++ " methods, " ++ Text.ofNat counts.properties ++ " properties"⟩

/-- The guide to an API from what reading the file of its catalog gave, and what is
logged about it. -/
def ofFile (path : Path) (apiName : Text) (file : Except OpenFault Octets)
    (depth : Nat := Json.usualDepth) : Guide × List LogEntry :=
  let guide : Guide := ⟨apiName, Catalog.ofFileAt path file depth⟩
  (guide, [guide.report])

/-- Loads the guide to the API whose catalog is at a path, and logs how that went;
`files` tells what the paths that can be asked for hold. -/
def loadFrom (files : Path → Except OpenFault Octets) (path : Path) (apiName : Text)
    (depth : Nat := Json.usualDepth) : Except SystemFault (Guide × List LogEntry) :=
  (path.read files).map (ofFile path apiName · depth)

/-- Loads the guide to the API whose catalog is at a path of a file tree. -/
def load (tree : Tree) (path : Path) (apiName : Text) (depth : Nat := Json.usualDepth) :
    Except SystemFault (Guide × List LogEntry) :=
  loadFrom tree.octets path apiName depth

/-- What a guide makes of its catalog and a line of a document; a missing document is
empty. -/
def onLine? {α : Type} (guide : Guide) (text : Option Text) (line : Int)
    (f : Catalog → Text → α) : Option α :=
  guide.catalog?.bind fun catalog => (documentLine? (text.getD []) line).map (f catalog)

/-- With a document, the line is that of the document. -/
@[simp] theorem onLine?_some {α : Type} (guide : Guide) (text : Text) (line : Int)
    (f : Catalog → Text → α) :
    guide.onLine? text line f =
      guide.catalog?.bind fun catalog => (documentLine? text line).map (f catalog) :=
  rfl

/-- The completion list at a position. -/
def complete (guide : Guide) (text : Option Text) (line character : Int) :
    List Payload.CompletionItem :=
  (guide.onLine? text line fun catalog current =>
    Payload.completions guide.apiName catalog (Context.dotAt current character)).getD []

/-- The signature help at a position. -/
def signatureHelp? (guide : Guide) (text : Option Text) (line character : Int) :
    Option Payload.SignatureHelp :=
  (guide.onLine? text line fun catalog current =>
    Payload.signatureHelp? catalog (Context.callAt current character)).join

/-- What is shown over a position. -/
def hover? (guide : Guide) (text : Option Text) (line character : Int) : Option Payload.Hover :=
  (guide.onLine? text line fun catalog current =>
    Payload.hover? guide.apiName catalog (Context.wordAt current character)).join

end Guide
end ApiGuide
