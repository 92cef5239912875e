/-
# Modules and their registry

A module is a named analysis: it says which evidence it applies to, checks whether the host can
run it, and runs on the evidence of a job. The registry keeps modules in the order of their
names, each name once.
-/

import Casework.Module.Name
import Casework.Host.Basic
import Casework.Job.Message

namespace Casework

open Text

/-- How a module run ends. -/
inductive RunResult where
  /-- It came to its end and returns the artifacts that it made. -/
  | done (artifacts : List Evidence)
  /-- It failed. -/
  | failed (e : ModuleError)
  /-- It broke down. -/
  | panicked

/-- A named analysis. -/
structure Module where
  name : String
  description : String
  /-- The module applies to the item. -/
  supports : Evidence → Bool
  /-- Whether the host can run the module. -/
  check : Host → Except ModuleError Unit × Host
  /-- The module run on the evidence of a job. -/
  run : JobDescriptor → Host → RunResult × Host

/-- Modules in the order of their names. -/
structure Registry where
  modules : List Module := []

namespace Registry

/-- The module of a name. -/
def find? (r : Registry) (name : String) : Option Module :=
  r.modules.find? fun m => m.name == name

/-- The registry has a module of this name. -/
def contains (r : Registry) (name : String) : Bool := (r.find? name).isSome

/-- The names of the modules, in order. -/
def names (r : Registry) : List String := r.modules.map Module.name

/-- Puts a module in its place. -/
def insertInto (m : Module) : List Module → List Module
  | [] => [m]
  | n :: ns => if m.name < n.name then m :: n :: ns else n :: insertInto m ns

/-- Adds a module. Its name has to be well-formed and new. -/
def register (r : Registry) (m : Module) : Except Error Registry :=
  match checkModuleName m.name with
  | .error e => .error e
  | .ok () =>
    if r.contains m.name then
      .error (.validation ("module " ++ quote m.name ++ " registered twice"))
    else .ok ⟨insertInto m r.modules⟩

/-- Adds modules one after the other. -/
def registerAll (r : Registry) : List Module → Except Error Registry
  | [] => .ok r
  | m :: ms =>
    match r.register m with
    | .error e => .error e
    | .ok r => r.registerAll ms

/-- The modules that apply to an item. -/
def supported (r : Registry) (e : Evidence) : List Module :=
  r.modules.filter fun m => m.supports e

/-- Those of the modules whose check passes. -/
def checked : List Module → Host → List Module × Host
  | [], h => ([], h)
  | m :: ms, h =>
    let (result, h) := m.check h
    let (kept, h) := checked ms h
    match result with
    | .ok () => (m :: kept, h)
    | .error _ => (kept, h)

/-- The registry with only the modules that the host can run. -/
def available (r : Registry) (h : Host) : Registry × Host :=
  let (kept, h) := checked r.modules h
  (⟨kept⟩, h)

/-- The names as a list for people. -/
def display (r : Registry) : String := "[" ++ joinWith ", " (r.names.map quote) ++ "]"

end Registry
end Casework
