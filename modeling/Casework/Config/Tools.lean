/-
# The tools of a worker

A TOML file names the commands of the external tools, a section each:

    [hayabusa]
    command = ["/opt/hayabusa/hayabusa"]

    [plaso]
    command = ["docker", "run", "--rm", "log2timeline/plaso", "psteal.py"]

    [timesketch]
    command = ["timesketch_importer"]
    url = "https://timesketch.example"
    user = "importer"
    password = "..."

Another section is refused, a further key in a section is not. A section may also be an array of
its values in this order. The command of a section that is present has a first word that is not
blank.
-/

import Casework.Error
import Casework.Toml.Document
import Casework.Host.FileTree

namespace Casework

open Text Toml

/-- Where timelines are uploaded, and with what command. -/
structure TimesketchConfig where
  command : List String
  url : String
  user : String
  password : String
deriving DecidableEq

/-- The commands of the external tools: program and leading arguments. -/
structure ToolsConfig where
  hayabusa? : Option (List String) := none
  plaso? : Option (List String) := none
  timesketch? : Option TimesketchConfig := none
deriving DecidableEq

namespace ToolsConfig

/-- The text of a node. -/
def textOf? : Node → Option String
  | .text s => some s
  | _ => none

/-- The texts of an array. -/
def textsOf? : Node → Option (List String)
  | .array items => items.mapM textOf?
  | _ => none

/-- The values of a section for its keys: by name from a table, in order from an array. -/
def valuesOf? (keys : List String) : Node → Option (List Node)
  | .table _ entries => keys.mapM fun key => Entries.find? entries key
  | .array items => if keys.length ≤ items.length then some (items.take keys.length) else none
  | .tables items =>
    if keys.length ≤ items.length then
      some ((items.take keys.length).map fun entries => .table .explicit entries)
    else none
  | _ => none

/-- The command of a section. -/
def commandOf? (n : Node) : Option (List String) := do
  match ← valuesOf? ["command"] n with
  | [command] => textsOf? command
  | _ => none

/-- The upload section. -/
def timesketchOf? (n : Node) : Option TimesketchConfig := do
  match ← valuesOf? ["command", "url", "user", "password"] n with
  | [command, url, user, password] =>
    return ⟨← textsOf? command, ← textOf? url, ← textOf? user, ← textOf? password⟩
  | _ => none

/-- A section that may be missing. -/
def section? {α : Type} (read : Node → Option α) (n? : Option Node) : Option (Option α) :=
  match n? with
  | none => some none
  | some n => (read n).map some

/-- The configuration of a document. -/
def ofEntries? (es : Entries) : Option ToolsConfig := do
  if es.any fun e => !(["hayabusa", "plaso", "timesketch"].contains e.1) then none
  return ⟨← section? commandOf? (Entries.find? es "hayabusa"),
    ← section? commandOf? (Entries.find? es "plaso"),
    ← section? timesketchOf? (Entries.find? es "timesketch")⟩

/-- A command that cannot be started: it has no first word, or a blank one. -/
def isBlankCommand (command : List String) : Bool :=
  match command with
  | [] => true
  | program :: _ => (trimChars program.toList).isEmpty

/-- The first section whose command is blank. -/
def blankSection? (c : ToolsConfig) : Option String :=
  (List.find? (fun s : String × Option (List String) => s.2.any isBlankCommand)
    [("hayabusa", c.hayabusa?), ("plaso", c.plaso?),
      ("timesketch", c.timesketch?.map (·.command))]).map Prod.fst

/-- The configuration that a text holds. -/
def parse (s : String) : Except Error ToolsConfig :=
  match (Toml.parse? s).bind ofEntries? with
  | none => .error (.config "invalid tools config")
  | some c =>
    match c.blankSection? with
    | some name => .error (.config ("[" ++ name ++ "] command must not be empty"))
    | none => .ok c

/-- The configuration in the file at a path. -/
def load (files : FileTree) (path : String) : Except Error ToolsConfig :=
  match files.read path with
  | .error e => .error (.config ("cannot read tools config " ++ path ++ ": " ++ e.message))
  | .ok s => parse s

/-- The configuration for people, with the password hidden. -/
def display (c : ToolsConfig) : String :=
  let words (ws : List String) := "[" ++ joinWith ", " (ws.map quote) ++ "]"
  let option (o : Option String) := o.elim "None" fun s => "Some(" ++ s ++ ")"
  joinWith ", "
    ["hayabusa: " ++ option (c.hayabusa?.map words), "plaso: " ++ option (c.plaso?.map words),
      "timesketch: " ++ option (c.timesketch?.map fun t =>
        joinWith ", " [words t.command, quote t.url, quote t.user, "[hidden]"])]

end ToolsConfig
end Casework
