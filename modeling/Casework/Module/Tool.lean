/-
# Modules that run external tools

A tool module starts the configured command with its own arguments behind it, waits for its
end, and reports the files it was told to write. The input is `<directory>/<case>/<name>`, an
output stands beside it under the input's full name with a suffix.

| tool | applies to | outputs |
| --- | --- | --- |
| Hayabusa | `evtx` | `.jsonl` |
| Plaso, a preset | `zip` | `.plaso` and `.plaso.csv` |
| Plaso, file system | `zip` | `.mft.plaso` and `.mft.plaso.csv` |
| Timesketch | `plaso`, `jsonl` | none, it uploads |

A run has three steps on the files: look which outputs do not exist yet (`freshOutputs`), run
the tool, and then remove the fresh outputs if the tool failed (`removeOutputs`) or describe the
outputs (`describeOutput`).
-/

import Casework.Config.Tools
import Casework.Module.Basic

namespace Casework

open Text

/-- Which tool a module drives. -/
inductive ToolKind where
  | hayabusa
  | plaso (parsers suffix : String)
  | timesketch
deriving DecidableEq, Repr

/-- A module that runs an external tool. -/
structure ToolModule where
  name : String
  description : String
  kind : ToolKind
  /-- Program and leading arguments, if the tool is configured. -/
  command? : Option (List String)
  timesketch? : Option TimesketchConfig
  /-- The directory with the files of every case. -/
  directory : String

namespace ToolModule

/-- What Hayabusa does. -/
def hayabusaText : String :=
  "Hayabusa is a sigma-based threat hunting and fast forensics timeline generator for " ++
    "Windows event logs."

/-- What Plaso does. -/
def plasoText : String :=
  "Plaso is a Python-based engine used by several tools for automatic creation of timelines."

/-- What Plaso does with file system metadata. -/
def plasoFilesText : String :=
  "Run Plaso with the parser for NTFS $MFT metadata files to create a file system timeline."

/-- What the importer does. -/
def timesketchText : String :=
  "Upload a timeline to the case's Timesketch sketch for collaborative analysis."

/-- Every tool module, with the commands of a configuration. -/
def builtin (tools : ToolsConfig) (directory : String) : List ToolModule :=
  let plaso (name description parsers suffix : String) : ToolModule :=
    ⟨name, description, .plaso parsers suffix, tools.plaso?, none, directory⟩
  [⟨"Hayabusa", hayabusaText, .hayabusa, tools.hayabusa?, none, directory⟩,
    plaso "Plaso (Windows Preset)" plasoText "win7" ".plaso",
    plaso "Plaso (Linux Preset)" plasoText "linux" ".plaso",
    plaso "Plaso (MacOS Preset)" plasoText "macos" ".plaso",
    plaso "Plaso (Filesystem Timeline)" plasoFilesText "mft" ".mft.plaso",
    ⟨"Timesketch Importer", timesketchText, .timesketch, tools.timesketch?.map (·.command),
      tools.timesketch?, directory⟩]

/-- The extensions that a tool applies to. -/
def extensions : ToolKind → List String
  | .hayabusa => ["evtx"]
  | .plaso _ _ => ["zip"]
  | .timesketch => ["plaso", "jsonl"]

/-- The module applies to an item: by the extension of its file name alone. -/
def supports (m : ToolModule) (e : Evidence) : Bool :=
  match e.extension? with
  | some ext => (extensions m.kind).contains ext
  | none => false

/-- The arguments that make a tool say that it is there. -/
def checkArguments : ToolKind → List String
  | .hayabusa => ["help"]
  | .plaso _ _ => ["-V"]
  | .timesketch => ["--version"]

/-- What the end of a tool means. -/
def outcome : ExitStatus → Except ModuleError Unit
  | .code 0 => .ok ()
  | .code n => .error (.exited n)
  | .signal => .error .terminated

/-- Starts the tool with arguments and waits for its end. -/
def execute (m : ToolModule) (arguments : List String) (h : Host) :
    Except ModuleError Unit × Host :=
  match m.command? with
  | none => (.error (.notConfigured m.name), h)
  | some [] => (.error (.notConfigured m.name), h)
  | some command =>
    match h.execute (command ++ arguments) with
    | (.error e, h) => (.error e, h)
    | (.ok status, h) => (outcome status, h)

/-- Whether the tool is there: it is configured, starts, and ends well. -/
def check (m : ToolModule) (h : Host) : Except ModuleError Unit × Host :=
  if m.kind = .timesketch ∧ m.timesketch?.isNone then (.error (.notConfigured m.name), h)
  else m.execute (checkArguments m.kind) h

/-- A path below another one. -/
def joinPath (directory name : String) : String :=
  if directory = "" then name
  else if directory.toList.getLast? = some '/' then directory ++ name
  else directory ++ "/" ++ name

/-- The path of an item's file. Names that would lead out of the case's directory are
refused. -/
def evidencePath (m : ToolModule) (e : Evidence) : Except ModuleError String :=
  match [e.caseId, e.name].find? fun part => !isPlainFileName part with
  | some part => .error (.failed ("refusing evidence path component " ++ quote part))
  | none => .ok (joinPath (joinPath m.directory e.caseId) e.name)

/-- The suffixes of a tool's outputs with the arguments that name them. -/
def outputSuffixes : ToolKind → List String
  | .hayabusa => [".jsonl"]
  | .plaso _ suffix => [suffix, suffix ++ ".csv"]
  | .timesketch => []

/-- The paths of a tool's outputs for an input. -/
def outputPaths (kind : ToolKind) (input : String) : List String :=
  (outputSuffixes kind).map (input ++ ·)

/-- The arguments of a run that writes files. -/
def runArguments (kind : ToolKind) (input : String) : List String :=
  match kind with
  | .hayabusa =>
    ["json-timeline", "--JSONL-output", "--RFC-3339", "--UTC", "--no-wizard", "--min-level",
      "informational", "--profile", "timesketch-verbose", "--file", input, "--output",
      input ++ ".jsonl"]
  | .plaso parsers suffix =>
    ["--unattended", "--parsers", parsers, "--output-format", "dynamic", "--source", input,
      "--storage-file", input ++ suffix, "--write", input ++ suffix ++ ".csv"]
  | .timesketch => []

/-- The kind and the notes that an output is described with. -/
def outputLabels : ToolKind → String × String
  | .hayabusa => ("Logs", "module-hayabusa")
  | .plaso _ _ => ("Other", "module-plaso")
  | .timesketch => ("", "")

/-- The outputs that do not exist yet. Only these may be removed after a failed run: what is
already there belongs to someone else, and so does what cannot be looked up. -/
def freshOutputs (files : FileTree) (paths : List String) : List String :=
  paths.filter fun path => files.exists? path == some false

/-- Removes the files at the paths, as far as they are there. -/
def removeOutputs (files : FileTree) (paths : List String) : FileTree :=
  paths.foldl FileTree.remove files

/-- The size that the system gives for an entry; a directory has that of one block. -/
def entrySize : Entry → Nat
  | .file content => content.utf8ByteSize
  | .directory => 4096

/-- An output as new evidence: it has the case and the source of its input. -/
def describeOutput (kind : ToolKind) (source : Evidence) (path suffix : String) (h : Host) :
    Except ModuleError Evidence × Host :=
  match h.files.lookup path with
  | .error e => (.error (.failed ("tool produced no output at " ++ path ++ ": " ++ e.message)), h)
  | .ok entry =>
    let (id, supply) := h.supply.next
    let (now, supply) := supply.now
    let (label, notes) := outputLabels kind
    (.ok ⟨id, source.caseId, label, source.name ++ suffix, source.source, notes,
      Int64.ofNat (min (entrySize entry) maxI64), "", now⟩, { h with supply := supply })

/-- The outputs as new evidence, up to the first that is missing. -/
def describeOutputs (kind : ToolKind) (source : Evidence) (input : String) :
    List String → Host → Except ModuleError (List Evidence) × Host
  | [], h => (.ok [], h)
  | suffix :: suffixes, h =>
    match describeOutput kind source (input ++ suffix) suffix h with
    | (.error e, h) => (.error e, h)
    | (.ok e, h) =>
      match describeOutputs kind source input suffixes h with
      | (.error e, h) => (.error e, h)
      | (.ok es, h) => (.ok (e :: es), h)

/-- A run that writes files beside its input. -/
def runWriting (m : ToolModule) (e : Evidence) (h : Host) :
    Except ModuleError (List Evidence) × Host :=
  match m.evidencePath e with
  | .error err => (.error err, h)
  | .ok input =>
    let fresh := freshOutputs h.files (outputPaths m.kind input)
    match m.execute (runArguments m.kind input) h with
    | (.error err, h) => (.error err, { h with files := removeOutputs h.files fresh })
    | (.ok (), h) => describeOutputs m.kind e input (outputSuffixes m.kind) h

/-- A run that uploads a timeline. -/
def runUpload (m : ToolModule) (job : JobDescriptor) (e : Evidence) (h : Host) :
    Except ModuleError (List Evidence) × Host :=
  match m.timesketch?, job.case? with
  | none, _ => (.error (.notConfigured m.name), h)
  | some _, none => (.error (.failed "case missing from job descriptor"), h)
  | some target, some c =>
    if c.sketchId = 0 then
      (.error (.failed ("case " ++ c.id ++ " has no Timesketch sketch")), h)
    else
      match m.evidencePath e with
      | .error err => (.error err, h)
      | .ok input =>
        match m.execute ["--quick", "--host", target.url, "-u", target.user, "-p",
          target.password, "--sketch_id", toString c.sketchId.toInt, input] h with
        | (.error err, h) => (.error err, h)
        | (.ok (), h) => (.ok [], h)

/-- The module run on the evidence of a job. -/
def run (m : ToolModule) (job : JobDescriptor) (h : Host) :
    Except ModuleError (List Evidence) × Host :=
  match job.evidence? with
  | none => (.error .missingEvidence, h)
  | some e =>
    match m.kind with
    | .timesketch => m.runUpload job e h
    | _ => m.runWriting e h

/-- The tool module as a module of the registry. -/
def toModule (m : ToolModule) : Module where
  name := m.name
  description := m.description
  supports := m.supports
  check := m.check
  run job h :=
    match m.run job h with
    | (.ok artifacts, h) => (.done artifacts, h)
    | (.error e, h) => (.failed e, h)

end ToolModule

namespace Registry

/-- The registry of the tool modules. -/
def builtin (tools : ToolsConfig) (directory : String) : Except Error Registry :=
  ({} : Registry).registerAll ((ToolModule.builtin tools directory).map ToolModule.toModule)

/-- The registry of the tool modules without tools, for a server, which only asks for names and
for what applies to an item. -/
def catalog : Registry :=
  ⟨(ToolModule.builtin {} ".").foldl (fun ms m => insertInto m.toModule ms) []⟩

end Registry
end Casework
