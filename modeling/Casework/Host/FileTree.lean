/-
# A tree of files

Directories and files by their path from the root, each path a list of component names. A path
text is followed component by component: every component but the last has to be a directory,
`..` goes one up, and a name of more than 255 bytes is refused when it is reached.
-/

import Casework.Error
import Casework.Catalog.FileName

namespace Casework

open Text

/-- A place in the tree: component names from the root. -/
abbrev Place := List String

/-- What a place holds. -/
inductive Entry where
  | directory
  | file (content : String)
deriving DecidableEq, Repr

/-- Directories and files. The root is always there. -/
structure FileTree where
  /-- The directory that relative paths start from. -/
  home : Place := []
  directories : List Place := []
  files : List (Place × String) := []

namespace FileTree

/-- What stands at a place. -/
def entryAt? (t : FileTree) (p : Place) : Option Entry :=
  if p.isEmpty ∨ p ∈ t.directories then some .directory
  else (t.files.find? fun f => f.1 == p).map fun f => .file f.2

/-- The most bytes that a component name has. -/
def maxNameBytes : Nat := 255

/-- The most bytes that a path has. -/
def maxPathBytes : Nat := 4095

/-- Follows the components from a directory to the place they name; the last one need not
exist. -/
def walk (t : FileTree) (at? : Place) : List String → Except FileError Place
  | [] => .ok at?
  | [name] =>
    if name = ".." then .ok at?.dropLast
    else if maxNameBytes < name.utf8ByteSize then .error .nameTooLong
    else .ok (at? ++ [name])
  | name :: names =>
    if name = ".." then walk t at?.dropLast names
    else if maxNameBytes < name.utf8ByteSize then .error .nameTooLong
    else
      match t.entryAt? (at? ++ [name]) with
      | some .directory => walk t (at? ++ [name]) names
      | some (.file _) => .error .notDirectory
      | none => .error .missing

/-- The place that a path text names. -/
def place (t : FileTree) (path : String) : Except FileError Place :=
  let cs := path.toList
  if cs.isEmpty then .error .missing
  else if maxPathBytes < path.utf8ByteSize then .error .nameTooLong
  else
    walk t (if cs.head? = some '/' then [] else t.home)
      ((pathComponents cs).map String.ofList)

/-- What stands where a path points; a path that ends in `/` only names directories. -/
def lookup (t : FileTree) (path : String) : Except FileError Entry :=
  match t.place path with
  | .error e => .error e
  | .ok p =>
    match t.entryAt? p with
    | none => .error .missing
    | some .directory => .ok .directory
    | some (.file content) =>
      if path.toList.getLast? = some '/' then .error .notDirectory else .ok (.file content)

/-- Whether something stands where a path points; `none` if that cannot be found out. -/
def exists? (t : FileTree) (path : String) : Option Bool :=
  match t.lookup path with
  | .ok _ => some true
  | .error .missing => some false
  | .error _ => none

/-- The text of the file at a path. -/
def read (t : FileTree) (path : String) : Except FileError String :=
  match t.lookup path with
  | .ok (.file content) => .ok content
  | .ok .directory => .error .isDirectory
  | .error e => .error e

/-- The tree without the file at a place. -/
def eraseFile (t : FileTree) (p : Place) : FileTree :=
  { t with files := t.files.filter fun f => f.1 != p }

/-- Removes the file at a path; a directory, or nothing, stays as it is. -/
def remove (t : FileTree) (path : String) : FileTree :=
  match t.place path with
  | .ok p => t.eraseFile p
  | .error _ => t

/-- Writes a file. Without its directory, or over a directory, nothing is written. -/
def write (t : FileTree) (path content : String) : FileTree :=
  match t.place path with
  | .error _ => t
  | .ok p =>
    if t.entryAt? p = some .directory ∨ t.entryAt? p.dropLast ≠ some .directory then t
    else { t.eraseFile p with files := (t.eraseFile p).files ++ [(p, content)] }

/-- Makes a directory with those above it, as far as no file is in the way. -/
def makeDirectory (t : FileTree) (p : Place) : FileTree :=
  { t with directories := t.directories ++
      ((List.range (p.length + 1)).map p.take).filter fun d =>
        !d.isEmpty && !t.directories.contains d }

end FileTree
end Casework
