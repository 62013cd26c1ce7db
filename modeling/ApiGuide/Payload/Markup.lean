/-
# Marked up text

What the builders in section 3.4 of the specification share.

Documentation is shown as Markdown. A value without documentation says so.
-/

import ApiGuide.Json.Basic

namespace ApiGuide
namespace Payload

/-- What is shown in place of absent documentation. -/
def noDocumentation : Text := "No documentation available"

/-- A block of code. -/
def codeBlock (code : Text) : Text := "```python\n" ++ code ++ "\n```"

/-- A Markdown text as a value. -/
def markdown (value : Text) : Json :=
  .object [("kind", .string "markdown"), ("value", .string value)]

end Payload
end ApiGuide
