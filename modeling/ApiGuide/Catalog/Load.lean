/-
# Loading catalogs

A catalog is loaded from a file in three steps, and each can fail: the file is
read, its octets are read as JSON, and the document is read as a catalog
(`load_catalog` in section 3.1 of the specification, and section 4.3). A failure keeps its
cause and the path of the file. As an error it is of one of two kinds:

| step | kind |
| --- | --- |
| the file is read | not found |
| its octets, or the document, are read | no catalog in it |

A document that is read on its own is of no file, and its errors have no path.
-/

import ApiGuide.Catalog.Document
import ApiGuide.Json.Document
import ApiGuide.Store.Tree

namespace ApiGuide
namespace Catalog

/-! ### Errors -/

/-- The kinds of errors about catalogs. -/
inductive ErrorKind where
  | notFound
  | noCatalog
deriving DecidableEq

/-- The name of a kind. -/
def ErrorKind.name : ErrorKind → Text
  | .notFound => "CatalogNotFound"
  | .noCatalog => "CatalogParseError"

/-- An error about a catalog: its kind, what it reports, and the path of the file, if it
is about a file. -/
structure Error where
  kind : ErrorKind
  message : Text
  path : Option Path

/-- An error as text, with the path in brackets. -/
def Error.text (error : Error) : Text :=
  match error.path with
  | some path => error.message ++ " (" ++ path.text ++ ")"
  | none => error.message

/-- A violation as an error. -/
def Violation.error (violation : Violation) : Error := ⟨.noCatalog, violation.message, none⟩

/-! ### Failures -/

/-- Why a catalog cannot be loaded. -/
inductive LoadCause where
  | unreadable (fault : OpenFault)
  | noDocument (fault : Json.DocumentFault)
  | noCatalog (violation : Violation)

/-- The report of a cause. -/
def LoadCause.message : LoadCause → Text
  | .unreadable fault => "catálogo não encontrado ou ilegível: " ++ fault.message
  | .noDocument fault => "JSON inválido: " ++ fault.message
  | .noCatalog violation => violation.message

/-- The kind of error that a cause is. -/
def LoadCause.kind : LoadCause → ErrorKind
  | .unreadable _ => .notFound
  | .noDocument _ => .noCatalog
  | .noCatalog _ => .noCatalog

/-- A failure to load the catalog at a path. -/
structure LoadFailure where
  cause : LoadCause
  path : Path

/-- A failure as an error. -/
def LoadFailure.error (failure : LoadFailure) : Error :=
  ⟨failure.cause.kind, failure.cause.message, some failure.path⟩

/-- The report of a failure, with the path in brackets. -/
def LoadFailure.message (failure : LoadFailure) : Text := failure.error.text

/-! ### Loading -/

/-- The catalog in what reading a file gave. Values that are nested deeper than `depth` are
not read. -/
def ofFile (file : Except OpenFault Octets) (depth : Nat := Json.usualDepth) :
    Except LoadCause Catalog :=
  match file with
  | .error fault => .error (.unreadable fault)
  | .ok octets =>
    match Json.ofOctets octets depth with
    | .error fault => .error (.noDocument fault)
    | .ok document => (ofJson document).mapError .noCatalog

/-- The catalog in what reading the file at a path gave. -/
def ofFileAt (path : Path) (file : Except OpenFault Octets) (depth : Nat := Json.usualDepth) :
    Except LoadFailure Catalog :=
  (ofFile file depth).mapError fun cause => ⟨cause, path⟩

/-- Loads the catalog at a path. -/
def load (tree : Tree) (path : Path) (depth : Nat := Json.usualDepth) :
    Except SystemFault (Except LoadFailure Catalog) :=
  (tree.read path).map (ofFileAt path · depth)

end Catalog
end ApiGuide
