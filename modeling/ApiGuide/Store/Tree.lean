/-
# File trees

The files and directories that are known, by their names from the root, and what
opening a path for reading gives. Names are octets. A path is followed name by name;
the first obstacle decides:

| obstacle | fault |
| --- | --- |
| the whole path takes 4096 octets or more | name too long |
| a name has to be looked up in a file | not a directory |
| a name takes more than 255 octets | name too long |
| a name is not there | no such file |
| the path ends at a directory | is a directory |

The directory above the root is the root itself.
-/

import ApiGuide.Encoding.SystemText
import ApiGuide.Store.Path

namespace ApiGuide

/-- Files and directories, by the names from the root, and the names of the working
directory. -/
structure Tree where
  home : List Text
  directories : List (List Octets)
  files : List (List Octets × Octets)

/-- Why a file cannot be read. A file system may have reasons of its own. -/
inductive OpenFault where
  | noSuchFile
  | isDirectory
  | notDirectory
  | nameTooLong
  | other (reason : Text)
deriving DecidableEq

/-- The report of a fault. -/
def OpenFault.message : OpenFault → Text
  | .noSuchFile => "No such file or directory"
  | .isDirectory => "Is a directory"
  | .notDirectory => "Not a directory"
  | .nameTooLong => "File name too long"
  | .other reason => reason

/-- What opening a path for reading gives, where `files` tells what the paths that can
be asked for hold. -/
def Path.read (files : Path → Except OpenFault Octets) (path : Path) :
    Except SystemFault (Except OpenFault Octets) :=
  match SystemText.fault? path.text with
  | some fault => .error fault
  | none => .ok (files path)

/-- What stands at a path. -/
inductive Node where
  | directory
  | file (octets : Octets)

namespace Tree

/-- The names of the working directory, as octets. -/
def homeNames (tree : Tree) : List Octets := tree.home.map SystemText.octets

/-- What stands at some names. The directories of all files and directories are there,
and so are the working directory and those above it. -/
def node? (tree : Tree) (names : List Octets) : Option Node :=
  match tree.files.reverse.find? (·.1 = names) with
  | some (_, octets) => some (.file octets)
  | none =>
    let known := tree.homeNames :: (tree.directories ++ tree.files.map (·.1))
    if known.any names.isPrefixOf then some .directory else none

/-- The most octets that a name may take. -/
def nameLimit : Nat := 255

/-- The octets that a whole path has to stay below. -/
def pathLimit : Nat := 4096

/-- The names that a name leads to from some names; both are in reverse, last one first. -/
def step (place : List Octets) (name : Octets) : List Octets :=
  if name = SystemText.octets Path.up then place.tail else name :: place

/-- The octets of the file that some names lead to from a place, which is given by its
names from the root, last one first. -/
def follow (tree : Tree) (place : List Octets) : List Octets → Except OpenFault Octets
  | [] =>
    match tree.node? place.reverse with
    | none => .error .noSuchFile
    | some .directory => .error .isDirectory
    | some (.file octets) => .ok octets
  | name :: rest =>
    match tree.node? place.reverse with
    | none => .error .noSuchFile
    | some (.file _) => .error .notDirectory
    | some .directory =>
      if nameLimit < name.length then .error .nameTooLong else tree.follow (step place name) rest

/-- The octets of the file at a path that can be asked for. -/
def octets (tree : Tree) (path : Path) : Except OpenFault Octets :=
  if pathLimit ≤ (SystemText.octets path.text).length then .error .nameTooLong
  else
    let start := match path.base with
      | .relative => tree.homeNames.reverse
      | .root _ => []
    tree.follow start (path.names.map SystemText.octets)

/-- What opening the file at a path for reading gives. -/
def read (tree : Tree) (path : Path) : Except SystemFault (Except OpenFault Octets) :=
  path.read tree.octets

end Tree
end ApiGuide
