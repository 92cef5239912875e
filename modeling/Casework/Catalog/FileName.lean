/-
# File names and extensions

A path is split at `/`; empty components and `.` count for nothing. The file name is the last
component, unless that is `..`. The extension is what follows the last point of the file name,
in small letters; a point at the very front does not count.
-/

import Casework.Catalog.Record

namespace Casework

open Text

/-- The components of a path that count. -/
def pathComponents (path : List Char) : List (List Char) :=
  (splitChars '/' path).filter fun part => !part.isEmpty && part != ['.']

/-- The last component of a path, `none` if there is none or it is `..`. -/
def fileName? (path : List Char) : Option (List Char) :=
  match (pathComponents path).getLast? with
  | some part => if part = ['.', '.'] then none else some part
  | none => none

/-- What follows the last point of a file name. -/
def extensionOf (name : List Char) : Option (List Char) :=
  let after := (name.reverse.takeWhile (· ≠ '.')).reverse
  let before := name.length - after.length
  if before ≤ 1 then none else some after

/-- A name that is a single ordinary component: not empty, without `/`, neither `.` nor `..`. -/
def isPlainFileName (part : String) : Bool :=
  part != "" && fileName? part.toList == some part.toList

namespace Evidence

/-- The extension of the item's file name, in small letters. -/
def extension? (e : Evidence) : Option String :=
  ((fileName? e.name.toList).bind extensionOf).map fun ext =>
    String.ofList (ext.map Char.toLower)

end Evidence
end Casework
