/-
# What a service tells

The answers of `/health`, `/capabilities` and `/signature/parse` in section 3.6 of the
specification.

The values that the endpoints of a service answer with: its state, what an editor
may ask for, and the parameters of a signature.
-/

import ApiGuide.Service.Basic

namespace ApiGuide
namespace Service

/-- A list of texts as a value. -/
def texts (list : List Text) : Json := .array (list.map .string)

/-- A value, or null where there is none. -/
def orNull {α : Type} (toJson : α → Json) : Option α → Json
  | some a => toJson a
  | none => .null

/-- The state of the service. -/
def health (s : Service) (port : Int) : Json :=
  let name := s.guide.apiName
  .object (
    Json.entry "status" (.string (if s.guide.ready then "ok" else "error")) ++
    Json.entry "message" (.string (if s.guide.ready then name ++ " API Ready"
      else "Failed to load " ++ name ++ " API definition file")) ++
    Json.entry "counts" (Catalog.countsToJson s.guide.counts) ++
    Json.entry "catalog" (.string s.settings.catalogPath.text) ++
    Json.entry "port" (.integer port) ++
    Json.entry "allowed_origins" (texts s.settings.allowedOrigins) ++
    Json.entry "open_docs" (.bool s.settings.openDocs) ++
    Json.entry "docs_public" (.bool s.settings.docsPublic) ++
    Json.entry "allow_credentials" (.bool s.settings.allowsCredentials) ++
    Json.textEntry? "error" (s.guide.failure?.map (·.message)))

/-- The characters after which an editor should ask for help. -/
def triggers (characters : List Text) : Json :=
  .object (Json.entry "triggerCharacters" (texts characters))

/-- What an editor may ask for. -/
def capabilities (s : Service) : Json :=
  let provided := fun value : Json => if s.guide.ready then value else .null
  .object (
    Json.entry "language" (.string s.settings.language) ++
    Json.entry "completionProvider" (provided (triggers ["."])) ++
    Json.entry "signatureHelpProvider" (provided (triggers ["(", ","])) ++
    Json.entry "hoverProvider" (.bool s.guide.ready))

/-- A parameter as a value. -/
def parameterToJson (p : Parameter) : Json :=
  .object (Json.entry "name" (.string p.name) ++ Json.textEntry? "type" p.type ++
    Json.textEntry? "default" p.default)

end Service
end ApiGuide
