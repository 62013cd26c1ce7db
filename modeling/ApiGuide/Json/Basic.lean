/-
# JSON values

The values of a JSON document. A number that is written without fraction and
exponent is an integer of any size; every other number is a binary floating
point number. The members of an object are kept as they are written, repeated
names included; `Json.members` is the view in which a repeated name keeps its
first place and takes its last value.
-/

import ApiGuide.Number.Binary64
import ApiGuide.Table

namespace ApiGuide

/-- A JSON value. -/
inductive Json where
  | null
  | bool (b : Bool)
  | integer (n : Int)
  | float (x : Binary64)
  | string (t : Text)
  | array (items : List Json)
  | object (members : List (Text × Json))

namespace Json

instance : Inhabited Json := ⟨.null⟩

/-- The members of an object by name. -/
def members (entries : List (Text × Json)) : Table Json := Table.ofList entries

/-- The value of a member; nothing for a value that is no object. -/
def get? (name : Text) : Json → Option Json
  | .object entries => (members entries).get? name
  | _ => none

/-- The kinds of values, as messages tell them apart. -/
inductive Kind where
  | null | bool | integer | float | string | array | object
deriving DecidableEq

/-- The kind of a value. -/
def kind : Json → Kind
  | .null => .null
  | .bool _ => .bool
  | .integer _ => .integer
  | .float _ => .float
  | .string _ => .string
  | .array _ => .array
  | .object _ => .object

/-- The name of a kind in messages. -/
def Kind.name : Kind → Text
  | .null => "NoneType"
  | .bool => "bool"
  | .integer => "int"
  | .float => "float"
  | .string => "str"
  | .array => "list"
  | .object => "dict"

/-- One member of an object. -/
def entry (name : Text) (value : Json) : List (Text × Json) := [(name, value)]

/-- A member for a text, if there is one. -/
def textEntry? (name : Text) : Option Text → List (Text × Json)
  | some t => entry name (.string t)
  | none => []

/-- A string, or null where there is none. -/
def ofText? : Option Text → Json
  | some t => .string t
  | none => .null

end Json
end ApiGuide
