/-
# Catalogs

The data model (section 2 of the specification) and its counts (`catalog_info` in
section 3.1).

A catalog describes the classes of an API by name: for each class its methods and
properties by name, its base classes, and the documentation of each of these. The
order of a catalog is that of the document it was read from.
-/

import ApiGuide.Table
import ApiGuide.Text.Split

namespace ApiGuide

/-- A method of a class. -/
structure Method where
  signature : Text
  docstring : Text
deriving DecidableEq

/-- A property of a class. -/
structure Property where
  docstring : Text
  readable : Bool
  writable : Bool
deriving DecidableEq

/-- What may be done with a property: `Read/Write`, `Read`, `Write` or nothing. -/
def Property.access (p : Property) : Text :=
  let read : List Text := if p.readable then ["Read"] else []
  let write : List Text := if p.writable then ["Write"] else []
  Text.join "/" (read ++ write)

/-- A class. -/
structure Class where
  docstring : Text
  bases : List Text
  methods : Table Method
  properties : Table Property

/-- The classes of an API by name. -/
abbrev Catalog := Table Class

/-- How much a catalog holds. -/
structure Counts where
  classes : Nat
  methods : Nat
  properties : Nat
deriving DecidableEq

/-- The counts of nothing. -/
def Counts.zero : Counts := ⟨0, 0, 0⟩

namespace Catalog

/-- The numbers of classes, and of the methods and properties of all classes together. -/
def counts (catalog : Catalog) : Counts :=
  ⟨catalog.size, catalog.values.foldr (fun c n => c.methods.size + n) 0,
    catalog.values.foldr (fun c n => c.properties.size + n) 0⟩

end Catalog
end ApiGuide
