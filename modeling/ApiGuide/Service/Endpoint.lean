/-
# Endpoints

What a service can be asked for (section 3.6 of the specification). Each endpoint is
declared for a method and a path:

| method | path | answer |
| --- | --- | --- |
| `GET` | `/health` | the state of the service |
| `GET` | `/info` | the counts of the catalog |
| `GET` | `/capabilities` | what an editor may ask for |
| `GET` | `/class/{name}` | a class |
| `GET` | `/signature/parse` | the parameters of a signature in the query |
| `POST` | `/completion`, `/signature-help`, `/hover` | help at a position |
-/

import ApiGuide.Service.Settings

namespace ApiGuide
namespace Service

/-- What a service can be asked for. -/
inductive Endpoint where
  | health
  | info
  | capabilities
  | classNamed (name : Text)
  | signature
  | completion
  | signatureHelp
  | hover
deriving DecidableEq

namespace Endpoint

/-- The method that an endpoint is declared for. -/
def method : Endpoint → Text
  | .completion => "POST"
  | .signatureHelp => "POST"
  | .hover => "POST"
  | _ => "GET"

/-- What comes before the name in the path of a class. -/
def classPath : Text := "/class/"

/-- The path that an endpoint is declared for, with the name of the class in its place. -/
def path : Endpoint → Text
  | .health => "/health"
  | .info => "/info"
  | .capabilities => "/capabilities"
  | .classNamed name => classPath ++ name
  | .signature => "/signature/parse"
  | .completion => "/completion"
  | .signatureHelp => "/signature-help"
  | .hover => "/hover"

end Endpoint

/-- A position in a text, as a request for help names it. -/
structure Position where
  text : Text
  line : Nat
  character : Nat
deriving DecidableEq

end Service
end ApiGuide
