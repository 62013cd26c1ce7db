/-
# Finding endpoints

A request is for an endpoint if its path is that of the endpoint and its method is that
of the endpoint:

| request | outcome |
| --- | --- |
| for a page, by `GET` or `HEAD` | the page |
| for an endpoint by its method | the endpoint |
| for a page or an endpoint by another method | 405, with the methods that are allowed |
| for either but for slashes at the end of the path | 307, to the path without them |
| any other | 404 |

A name in a path is not empty and holds no slash. A line break at the end of any other
path does not count.
-/

import ApiGuide.Service.Framework
import ApiGuide.Stock.Query
import ApiGuide.Stock.Sending

namespace ApiGuide
namespace Stock

open Service (Endpoint Outcome Pages Request Taken header)

/-- What a path stands for. -/
inductive Target where
  | page (body : Service.Body) (type : Text)
  | endpoint (endpoint : Endpoint)

namespace Target

/-- The methods that a target is asked for by. -/
def methods : Target → List Text
  | .page _ _ => ["GET", "HEAD"]
  | .endpoint e => [e.method]

/-- The pages by path. The page that shows the description comes with another one, to sign
in by. -/
def ofPages (pages : Pages) : List (Text × Target) :=
  let shown : Target := .page .page pageType
  let description := pages.description.toList.map fun path : Text =>
    (path, Target.page .description jsonType)
  let docs := pages.docs.toList.flatMap fun path : Text =>
    [(path, shown), (path ++ Text.ofString "/oauth2-redirect", shown)]
  let redoc := pages.redoc.toList.map fun path : Text => (path, shown)
  description ++ docs ++ redoc

/-- The endpoints with a fixed path. -/
def fixed : List (Text × Target) :=
  ([.health, .info, .capabilities, .signature, .completion, .signatureHelp, .hover] :
    List Endpoint).map fun e => (e.path, .endpoint e)

/-- A path without a line break at its end. -/
def withoutBreak (path : Text) : Text :=
  if path.getLast? = some CodePoint.lineFeed then path.dropLast else path

/-- The class that a path names. -/
def ofClassPath? (path : Text) : Option Target :=
  let name := path.drop Endpoint.classPath.length
  if Endpoint.classPath.isPrefixOf path ∧ name ≠ [] ∧ CodePoint.ofChar '/' ∉ name then
    some (.endpoint (.classNamed name))
  else none

/-- What a path stands for. -/
def ofPath? (pages : Pages) (path : Text) : Option Target :=
  Table.lookup? (withoutBreak path) (ofPages pages ++ fixed) <|> ofClassPath? path

end Target

/-! ### Redirections -/

/-- Whether an address shows a character as itself. -/
def isAddressCharacter (c : CodePoint) : Bool :=
  c.isAsciiDigit || decide (65 ≤ c.val ∧ c.val ≤ 90) || decide (97 ≤ c.val ∧ c.val ≤ 122) ||
    decide (c ∈ Text.ofString "_.-~:/%#?=@[]!$&'()*+,;")

/-- An address in which every other character is shown by its octets, each as `%`
and two hexadecimal digits. -/
def percentEncode (t : Text) : Text :=
  t.flatMap fun c =>
    if isAddressCharacter c then [c]
    else (Utf8.encodeOne c).flatMap fun b =>
      let hex := fun n : Nat => CodePoint.ofNat (if n < 10 then 48 + n else 55 + n)
      [CodePoint.ofChar '%', hex (b.toNat / 16), hex (b.toNat % 16)]

/-- A path without the slashes at its end. -/
def withoutSlashes (path : Text) : Text :=
  Text.dropEndWhile (fun c => decide (c = CodePoint.ofChar '/')) path

/-- Where a request is redirected: to the path without the slashes at its end, if that
is another path and stands for something. -/
def redirection? (pages : Pages) (r : Request) : Option Text :=
  let path := withoutSlashes r.path
  if path ≠ r.path ∧ r.path ≠ "/" ∧ (Target.ofPath? pages path).isSome then
    some (percentEncode ("http://" ++ r.host ++ path ++ Query.suffix r))
  else none

/-! ### Routes -/

/-- The endpoint that a request is for, or the answer to a request for none. -/
def route (pages : Pages) (r : Request) : Taken Endpoint :=
  match Target.ofPath? pages r.path with
  | some target =>
    if r.method ∈ target.methods then
      match target with
      | .endpoint e => .given e
      | .page body type => .answered (.ok ⟨200, header contentType type, body⟩)
    else
      .answered (detail 405 (header "allow" (Text.join ", " target.methods)) "Method Not Allowed")
  | none =>
    match redirection? pages r with
    | some location => .answered (.ok ⟨307, header "location" location, .text []⟩)
    | none => .answered (detail 404 [] "Not Found")

end Stock
end ApiGuide
