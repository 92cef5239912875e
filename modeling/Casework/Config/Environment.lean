/-
# Settings from environment variables

A variable that is not set takes its default. One that is set is trimmed and read; what cannot
be read is refused with the variable's name, its value as it stands, and the cause. A variable
whose bytes are not a text counts as not set.
-/

import Casework.Error
import Casework.Net.Address
import Casework.Text.Quoted

namespace Casework

open Text

/-- The variables that are set, with their values. -/
abbrev Environment := List (String × String)

namespace Environment

/-- The value of a variable. -/
def get? (env : Environment) (name : String) : Option String :=
  (List.find? (fun v => v.1 == name) env).map Prod.snd

/-- The variables whose bytes are a text. -/
def ofBytes (vars : List (String × List UInt8)) : Environment :=
  vars.filterMap fun v => (decode? v.2).map fun s => (v.1, s)

/-- The value of a variable that has to be set. -/
def required (env : Environment) (name : String) : Except Error String :=
  match env.get? name with
  | some s => .ok s
  | none => .error (.config ("required environment variable " ++ name ++ " is not set"))

/-- The value of a variable, unless it is empty. -/
def secret (env : Environment) (name : String) : Option String :=
  (env.get? name).filter (· != "")

/-- The value of a variable, read after trimming. -/
def parsed {α : Type} (env : Environment) (name : String) (default : α)
    (read : String → Except String α) : Except Error α :=
  match env.get? name with
  | none => .ok default
  | some raw =>
    match read (trim raw) with
    | .ok a => .ok a
    | .error cause => .error (.config (name ++ "=" ++ quote raw ++ " is invalid: " ++ cause))

end Environment

/-- An unsigned 64-bit number. -/
def readCount (s : String) : Except String Nat := (readUnsigned maxU64 s).mapError (·.message)

/-- A truth value. -/
def readFlag (s : String) : Except String Bool :=
  if s = "true" then .ok true
  else if s = "false" then .ok false
  else .error "provided string was not `true` or `false`"

/-- An address with a port. -/
def readAddress (s : String) : Except String SocketAddress :=
  match SocketAddress.parse? s with
  | some a => .ok a
  | none => .error "invalid socket address syntax"

end Casework
