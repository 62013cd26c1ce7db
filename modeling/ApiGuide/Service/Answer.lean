/-
# Running a service

A service that runs is built on the stock framework.
-/

import ApiGuide.Stock.Framework

namespace ApiGuide
namespace Service

/-- What comes of a request on the stock framework. -/
def answer (s : Service) (r : Request) : Outcome :=
  (Stock.framework Json.usualDepth).answer s r

/-- The response to a request on the stock framework. -/
def respond (s : Service) (r : Request) : Response :=
  (Stock.framework Json.usualDepth).respond s r

end Service
end ApiGuide
