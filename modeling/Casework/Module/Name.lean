/-
# Module names

A module name has 1 to 64 characters out of the ASCII letters and digits, `_`, the blank, the
parentheses, the point and the hyphen. Every name is checked before it reaches the store.
-/

import Casework.Error
import Casework.Text.Quoted

namespace Casework

open Text

/-- A character that a module name may have. -/
def isModuleNameChar (c : Char) : Bool :=
  c.isAlphanum || c == '_' || c == ' ' || c == '(' || c == ')' || c == '.' || c == '-'

/-- A well-formed module name. -/
def isModuleName (name : String) : Bool :=
  let cs := name.toList
  1 ≤ cs.length && cs.length ≤ 64 && cs.all isModuleNameChar

/-- Refuses a name that is not well-formed. -/
def checkModuleName (name : String) : Except Error Unit :=
  if isModuleName name then .ok ()
  else .error (.validation ("invalid module name: " ++ quote name))

/-- Refuses a list of names at its first name that is not well-formed. -/
def checkModuleNames : List String → Except Error Unit
  | [] => .ok ()
  | name :: names =>
    match checkModuleName name with
    | .error e => .error e
    | .ok () => checkModuleNames names

end Casework
