/-
# Paths

A path is a base and names under it. Slashes that follow each other count as one,
except that a path may begin with exactly two; the name `.` and a slash at the end
are dropped, the name `..` is kept:

| text | path |
| --- | --- |
| `./a//b/` | `a/b` |
| `a/../b` | `a/../b` |
| empty | `.` |
| `///a` | `/a` |
-/

import ApiGuide.Text.Split

namespace ApiGuide

/-- What the names of a path are counted from: the working directory, or the root,
which is written with one or two slashes. -/
inductive Base where
  | relative
  | root (slashes : Text)
deriving DecidableEq

/-- A path. -/
structure Path where
  base : Base
  names : List Text
deriving DecidableEq

namespace Path

/-- The name of the directory itself. -/
def here : Text := "."

/-- The name of the directory above. -/
def up : Text := ".."

/-- The names between slashes, without empty ones and `.`. -/
def namesOf (t : Text) : List Text := (t.splitOn '/').filter fun name => name ≠ [] ∧ name ≠ here

/-- The path that a text stands for. -/
def ofText (t : Text) : Path :=
  let slashes := t.takeWhile (· = CodePoint.ofChar '/')
  let base := match slashes with
    | [] => .relative
    | [slash, slash'] => .root [slash, slash']
    | slash :: _ => .root [slash]
  ⟨base, namesOf t⟩

/-- A path as text. -/
def text (p : Path) : Text :=
  let names := Text.join "/" p.names
  match p.base with
  | .relative => if p.names = [] then here else names
  | .root slashes => slashes ++ names

/-- The names that are left when each `..` has taken away the name before it; `kept`
are the names before, last one first. -/
def resolveNames : (names kept : List Text) → List Text
  | [], kept => kept.reverse
  | name :: rest, kept =>
    if name = up then resolveNames rest kept.tail else resolveNames rest (name :: kept)

/-- The full path, counted from the root. A relative path begins at some names, those
of a working directory. -/
def resolve (home : List Text) (p : Path) : Path :=
  let before := match p.base with
    | .relative => home
    | .root _ => []
  ⟨.root "/", resolveNames p.names before.reverse⟩

example : (ofText "./a//b/").text = "a/b" ∧ (ofText "").text = "." ∧ (ofText "//a").text = "//a" ∧
    (ofText "///a").text = "/a" := by
  decide

example : ((ofText "x/../a").resolve ["home"]).text = "/home/a" ∧
    ((ofText "../../a").resolve ["home"]).text = "/a" := by
  decide

end Path
end ApiGuide
