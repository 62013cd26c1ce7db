/-
# Settings

A service is configured by variables (section 4.1 of the specification):

| variable | meaning | without it |
| --- | --- | --- |
| `CARLAPI_JSON` | path of the catalog | `utils/carla_api.json` |
| `CARLAPI_NAME` | name of the API | `CARLA` |
| `CARLAPI_LANGUAGE` | language of the documents | `python` |
| `CARLAPI_LOG_LEVEL` | least level that is logged, in any case | `INFO`, also for an unknown one |
| `CARLAPI_KEY` | key that requests have to carry | no key is asked for |
| `ALLOWED_ORIGINS` | origins of other sites, comma separated | `http://localhost` |
| `OPEN_DOCS` | `1` for pages that describe the service | no pages |
| `DOCS_PUBLIC` | `1` for pages without a key | |
| `PORT` | number of the port, for reports | `3737` |
-/

import ApiGuide.Guide
import ApiGuide.Text.Trim

namespace ApiGuide
namespace Service

/-- The settings of a service. -/
structure Settings where
  catalogPath : Path
  apiName : Text
  language : Text
  threshold : Threshold
  key : Text
  allowedOrigins : List Text
  openDocs : Bool
  docsPublic : Bool
  port : Text

/-- The paths of the pages that describe a service, where there are such pages: of the two
that show the description, and of the description. -/
structure Pages where
  docs : Option Text
  redoc : Option Text
  description : Option Text

/-- The paths of all pages that there are. -/
def Pages.paths (pages : Pages) : List Text :=
  [pages.docs, pages.redoc, pages.description].filterMap id

/-- What other sites may do: the origins that are allowed, whether credentials may be
sent, and the methods and the headers that may be used. -/
structure Policy where
  origins : List Text
  credentials : Bool
  methods : List Text
  headers : List Text

/-- Why a service does not start: the name of its log level stands for something else,
or a variable has no value that the system can keep. -/
inductive StartFault where
  | level (fault : NotLevel)
  | system (fault : SystemFault)
deriving DecidableEq

/-- The report of a fault. -/
def StartFault.message : StartFault → Text
  | .level fault => fault.message
  | .system fault => fault.message

namespace Settings

/-- Any origin. -/
def anyOrigin : Text := "*"

/-- The origins in a list: trimmed, without empty ones. -/
def origins (list : Text) : List Text := ((list.splitOn ',').map Text.trim).filter (· ≠ [])

/-- The variables as the system shows them. -/
def shownVariables : List (Text × Text) → Except SystemFault (List (Text × Text))
  | [] => .ok []
  | (name, value) :: rest =>
    match SystemText.shown value with
    | .error fault => .error fault
    | .ok value => (shownVariables rest).map ((name, value) :: ·)

/-- The settings that variables describe as the system shows them, in a working directory. -/
def ofShown (home : List Text) (environment : Table Text) : Except NotLevel Settings :=
  let get := fun (name : String) (absent : String) =>
    (environment.get? (Text.ofString name)).getD (Text.ofString absent)
  let isOn := fun name : String => decide (get name "0" = Text.ofString "1")
  (Threshold.ofName (get "CARLAPI_LOG_LEVEL" "INFO")).map fun threshold => {
    catalogPath := (Path.ofText (get "CARLAPI_JSON" "utils/carla_api.json")).resolve home
    apiName := get "CARLAPI_NAME" "CARLA"
    language := get "CARLAPI_LANGUAGE" "python"
    threshold := threshold
    key := get "CARLAPI_KEY" ""
    allowedOrigins := origins (get "ALLOWED_ORIGINS" "http://localhost")
    openDocs := isOn "OPEN_DOCS"
    docsPublic := isOn "DOCS_PUBLIC"
    port := get "PORT" "3737" }

/-- The settings that an environment describes, in a working directory. -/
def ofEnvironment (home : List Text) (environment : Table Text) : Except StartFault Settings :=
  match shownVariables environment.entries with
  | .error fault => .error (.system fault)
  | .ok shown => (ofShown home (Table.ofList shown)).mapError .level

/-- Whether any origin is allowed. -/
def allowsAnyOrigin (s : Settings) : Bool := decide (anyOrigin ∈ s.allowedOrigins)

/-- Whether other sites may send credentials: never where any origin is allowed. -/
def allowsCredentials (s : Settings) : Bool := !s.allowsAnyOrigin

/-- The pages that describe a service: none, unless they are open. -/
def pages (s : Settings) : Pages :=
  if s.openDocs then ⟨some "/docs", some "/redoc", some "/openapi.json"⟩ else ⟨none, none, none⟩

/-- The rules for other sites. -/
def policy (s : Settings) : Policy where
  origins := s.allowedOrigins
  credentials := s.allowsCredentials
  methods := ["GET", "POST", "OPTIONS", "HEAD"]
  headers := ["authorization", "x-api-key", "content-type", "accept", "origin"]

end Settings
end Service
end ApiGuide
