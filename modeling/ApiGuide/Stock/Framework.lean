/-
# The stock framework

A framework that runs: a service is tried out on it. Of what is stated about services
nothing goes by its details.
-/

import ApiGuide.Stock.Address
import ApiGuide.Stock.Body
import ApiGuide.Stock.CrossOrigin
import ApiGuide.Stock.Router

namespace ApiGuide
namespace Stock

open Service (Framework Request Taken)

/-- The signature in the query of a request. -/
def signature (r : Request) : Taken Text :=
  match Query.parameter? r "signature" with
  | some raw => .given raw
  | none => .answered (complain [⟨.missing, [.query, .field "signature"], .null⟩])

/-- The stock framework. Values in bodies that are nested deeper than `depth` are not
read. -/
def framework (depth : Nat) : Framework where
  address := Address.path?
  allowsAny := CrossOrigin.allowsAny
  isListed := CrossOrigin.isListed
  crossing := CrossOrigin.crossing
  route := route
  position := Body.position depth
  signature := signature
  encode := sendable
  render := render
  failed := failed

end Stock
end ApiGuide
