/-
# Queries

A query is a list of parameters with ampersands between them. It travels as the octets
of UTF-8 but is read octet by octet, each as the character of its number; so only what
is written with percent signs can bring a character beyond `U+00FF`.
-/

import ApiGuide.Service.Request

namespace ApiGuide
namespace Stock
namespace Query

open Service (Request octetwise percentDecode)

/-- The name and the value of a parameter of a query: between them stands the first
equals sign, a plus sign is a space. -/
def parameter (pair : Text) : Text × Text :=
  let decode := fun t : Text =>
    percentDecode (t.map fun c : CodePoint => if c = '+' then CodePoint.ofChar ' ' else c)
  (decode (pair.upTo '='), decode ((pair.after? '=').getD []))

/-- The parameters of the query, in order. -/
def parameters (r : Request) : List (Text × Text) :=
  (((octetwise r.query).splitOn '&').filter (· ≠ [])).map parameter

/-- The last value of a parameter. -/
def parameter? (r : Request) (name : Text) : Option Text :=
  ((parameters r).reverse.find? fun p => p.1 = name).map (·.2)

/-- The query behind a question mark, if there is one. -/
def suffix (r : Request) : Text := if r.query = [] then [] else "?" ++ r.query

end Query
end Stock
end ApiGuide
