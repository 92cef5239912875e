/-
# What a run reports is what its tool was told to write

The paths of the outputs come up three times: in the command, when the outputs are looked for, and
as the names that the artifacts are found by again.

| tool | argument | name of the artifact | applies to it |
| --- | --- | --- | --- |
| Hayabusa | `--output` | the input's with `.jsonl` | Timesketch |
| Plaso, a preset | `--storage-file` | the input's with `.plaso` | Timesketch |
| | `--write` | the input's with `.plaso.csv` | none |
| Plaso, file system | `--storage-file` | the input's with `.mft.plaso` | Timesketch |
| | `--write` | the input's with `.mft.plaso.csv` | none |

The three agree for every plain name: the path behind the argument (`valueBehind?_command`) is the
one of the artifact (`evidencePath_append`), and what a name ends in behind its last point decides
which modules apply (`supporters_of_output`).  A run ends well if and only if its tool ended with
code 0 and every output is there (`run_eq_ok_iff`), and `outputs_reported` says all this of a whole
run.
-/

import Casework.Proofs.Module.Outputs
import Casework.Proofs.Module.Paths
import Mathlib.Data.List.Forall2

namespace Casework

/-- What stands behind the last occurrence of a word in a command. -/
def valueBehind? (word : String) : List String → Option String
  | [] => none
  | [_] => none
  | a :: b :: rest => (valueBehind? word (b :: rest)).or (if a = word then some b else none)

/-- What stands further back counts. -/
theorem valueBehind?_append {word value : String} {back : List String}
    (found : valueBehind? word back = some value) (front : List String) :
    valueBehind? word (front ++ back) = some value := by
  induction front with
  | nil => exact found
  | cons a front ih =>
    rw [List.cons_append]
    cases rest : front ++ back with
    | nil => simp [rest, valueBehind?] at ih
    | cons b rest' =>
      rw [rest] at ih
      rw [valueBehind?, ih, Option.some_or]

namespace ToolModule

open FileTree Text

variable {m : ToolModule} {job : JobDescriptor} {e a : Evidence} {h h' : Host} {kind : ToolKind}
  {tools : ToolsConfig} {directory input suffix : String} {arguments command : List String}
  {files : FileTree}

/-- An output of a tool. -/
structure ToolOutput where
  /-- The argument that its path stands behind. -/
  word : String
  /-- What its name has more than that of the input. -/
  suffix : String
  /-- The built-in modules that apply to it. -/
  next : List String

/-- The outputs of a tool. -/
def toolOutputs : ToolKind → List ToolOutput
  | .hayabusa => [⟨"--output", ".jsonl", ["Timesketch Importer"]⟩]
  | .plaso _ suffix =>
    [⟨"--storage-file", suffix, ["Timesketch Importer"]⟩, ⟨"--write", suffix ++ ".csv", []⟩]
  | .timesketch => []

/-- The suffixes of a tool are those of its outputs. -/
theorem outputSuffixes_eq (kind : ToolKind) :
    outputSuffixes kind = (toolOutputs kind).map ToolOutput.suffix := by
  cases kind <;> rfl

/-- The configured tool is started by a command with the arguments behind those of the
configuration, and ends in a way, leaving these files. -/
def Ends (m : ToolModule) (arguments : List String) (h : Host) (command : List String)
    (status : ExitStatus) (files : FileTree) : Prop :=
  (∃ own, m.command? = some own ∧ own ≠ [] ∧ command = own ++ arguments) ∧
    (∀ word ∈ command, '\x00' ∉ word.toList) ∧
    h.launch command h.files = .ok (status, files)

/-- What a run reports of an output of an item: the name of the item with the suffix, its case and
its source, and the size of the file that stands at the path behind the argument.  The path is the
one that modules find the artifact by, and those that apply to it are known. -/
structure Reports (tools : ToolsConfig) (m : ToolModule) (source : Evidence)
    (command : List String) (files : FileTree) (out : ToolOutput) (a : Evidence) : Prop where
  name : a.name = source.name ++ out.suffix
  caseId : a.caseId = source.caseId
  source : a.source = source.source
  file : ∃ path entry, valueBehind? out.word command = some path ∧
    m.evidencePath a = .ok path ∧ files.lookup path = .ok entry ∧
    a.size.toInt = ((min (entrySize entry) maxI64 : Nat) : Int)
  next : ((builtin tools m.directory).filter fun m' => m'.supports a).map ToolModule.name =
    out.next

/-! ## The command -/

/-- A tool ends well if its code is zero. -/
theorem outcome_eq_ok_iff {status : ExitStatus} : outcome status = .ok () ↔ status = .code 0 := by
  unfold outcome
  split <;> simp_all

/-- **A tool ends well** if and only if it is started and ends with code 0. -/
theorem execute_eq_ok_iff : m.execute arguments h = (.ok (), h') ↔ ∃ command files,
    m.Ends arguments h command (.code 0) files ∧
      h' = { h with files := files, started := h.started ++ [command] } := by
  constructor
  · intro ended
    have executed := executes m arguments h
    rw [ended] at executed
    generalize result : Except.ok () = r at executed
    cases executed with
    | idle err => cases result
    | ran configured some_program sendable launched =>
      obtain rfl := outcome_eq_ok_iff.1 result.symm
      exact ⟨_, _, ⟨⟨_, configured, some_program, rfl⟩, sendable, launched⟩, rfl⟩
  · rintro ⟨_, files, ⟨⟨own, configured, some_program, rfl⟩, sendable, launched⟩, rfl⟩
    obtain ⟨program, base, rfl⟩ := List.exists_cons_of_ne_nil some_program
    simp only [execute, configured]
    rw [Host.execute, if_neg (mt has_nul_iff.1 (not_not_intro sendable)), launched]
    rfl

/-- **Behind the argument of an output** stands its path. -/
theorem valueBehind?_command (slash : '/' ∈ input.toList) (front : List String) {out : ToolOutput}
    (writes : out ∈ toolOutputs kind) :
    valueBehind? out.word (front ++ runArguments kind input) = some (input ++ out.suffix) := by
  refine valueBehind?_append ?_ front
  cases kind with
  | hayabusa =>
    obtain rfl := List.mem_singleton.1 writes
    rfl
  | plaso parsers suffix =>
    -- a path has a slash, so the path of the storage is not taken for the argument itself
    have other : input ++ suffix ≠ "--storage-file" := by
      intro same
      have there : '/' ∈ (input ++ suffix).toList := by simp [slash]
      rw [same] at there
      exact absurd there (by decide)
    have storage : valueBehind? "--storage-file" ["--storage-file", input ++ suffix, "--write",
        input ++ suffix ++ ".csv"] = some (input ++ suffix) := by
      simp [valueBehind?, other]
    have table : valueBehind? "--write" ["--write", input ++ suffix ++ ".csv"] =
        some (input ++ suffix ++ ".csv") := by
      simp [valueBehind?]
    obtain rfl | rfl : out = _ ∨ out = _ := by simpa [toolOutputs] using writes
    · exact valueBehind?_append storage
        ["--unattended", "--parsers", parsers, "--output-format", "dynamic", "--source", input]
    · rw [← String.append_assoc]
      exact valueBehind?_append table
        ["--unattended", "--parsers", parsers, "--output-format", "dynamic", "--source", input,
          "--storage-file", input ++ suffix]
  | timesketch => cases writes

/-- So what stands behind the arguments is what stands at the outputs. -/
theorem present_behind_iff (slash : '/' ∈ input.toList) (front : List String) :
    (∀ out ∈ toolOutputs kind, ∃ path,
      valueBehind? out.word (front ++ runArguments kind input) = some path ∧ files.Present path) ↔
      ∀ suffix ∈ outputSuffixes kind, files.Present (input ++ suffix) := by
  rw [outputSuffixes_eq, List.forall_mem_map]
  refine forall₂_congr fun out writes => ?_
  rw [valueBehind?_command slash front writes]
  simp only [Option.some.injEq, exists_eq_left']

/-! ## The artifacts -/

/-- The artifact is that of a suffix: it is named by it and has the size of the file that stands at
the path with it. -/
def Describes (source : Evidence) (input : String) (files : FileTree) (suffix : String)
    (a : Evidence) : Prop :=
  a.name = source.name ++ suffix ∧ a.caseId = source.caseId ∧ a.source = source.source ∧
    ∃ entry, files.lookup (input ++ suffix) = .ok entry ∧
      a.size.toInt = ((min (entrySize entry) maxI64 : Nat) : Int)

/-- An artifact that is made is the one of its suffix. -/
theorem describes_of_ok (described : (describeOutput kind e (input ++ suffix) suffix h).1 = .ok a) :
    Describes e input h.files suffix a := by
  unfold describeOutput at described
  split at described
  · cases described
  · next entry found =>
    obtain rfl := Except.ok.inj described
    exact ⟨rfl, rfl, rfl, entry, found, Int64.toInt_ofNat_of_lt (by unfold maxI64; omega)⟩

/-- Artifacts are of the outputs, in their order. -/
theorem forall_describes_of_ok {suffixes : List String} {artifacts : List Evidence}
    (described : (describeOutputs kind e input suffixes h).1 = .ok artifacts) :
    List.Forall₂ (Describes e input h.files) suffixes artifacts := by
  induction suffixes generalizing h artifacts with
  | nil =>
    obtain rfl := Except.ok.inj described
    exact .nil
  | cons suffix suffixes ih =>
    obtain ⟨supply, same⟩ := describeOutput_host kind e (input ++ suffix) suffix h
    rw [describeOutputs] at described
    split at described
    · cases described
    · next a h₁ first =>
      obtain rfl : h₁ = { h with supply := supply } := by simpa [first] using same
      split at described
      · cases described
      · next rest h₂ others =>
        obtain rfl := Except.ok.inj described
        refine .cons (describes_of_ok (by rw [first])) (ih (h := { h with supply := supply }) ?_)
        rw [others]

/-! ## What applies to them -/

/-- What ends in an extension behind a plain name is supported by the modules whose tool applies to
that. -/
theorem supports_eq {extension : List Char} {front : List Char}
    (plain : isPlainFileName a.name = true) (shape : a.name.toList = front ++ '.' :: extension)
    (some_char : front ≠ []) (free : '.' ∉ extension) (m : ToolModule) :
    m.supports a = (extensions m.kind).contains (String.ofList (extension.map Char.toLower)) := by
  rw [supports, Evidence.extension?_eq plain shape some_char free]

/-- The outputs of the built-in modules are timelines and tables. -/
theorem suffix_of_output {out : ToolOutput} (known : m ∈ builtin tools directory)
    (writes : out ∈ toolOutputs m.kind) :
    out.next = ["Timesketch Importer"] ∧ out.suffix ∈ [".jsonl", ".plaso", ".mft.plaso"] ∨
      out.next = [] ∧ out.suffix ∈ [".plaso.csv", ".mft.plaso.csv"] := by
  have all : ∀ kind ∈ (builtin {} "").map ToolModule.kind, ∀ out ∈ toolOutputs kind,
      out.next = ["Timesketch Importer"] ∧ out.suffix ∈ [".jsonl", ".plaso", ".mft.plaso"] ∨
        out.next = [] ∧ out.suffix ∈ [".plaso.csv", ".mft.plaso.csv"] := by decide
  exact all m.kind (kind_mem_of_builtin known) out writes

/-- **The next modules** for an output are decided by its suffix, whatever the name of the item. -/
theorem supporters_of_output {out : ToolOutput} (known : m ∈ builtin tools directory)
    (writes : out ∈ toolOutputs m.kind) (plain : isPlainFileName e.name = true)
    (named : a.name = e.name ++ out.suffix) (tools' : ToolsConfig) (directory' : String) :
    ((builtin tools' directory').filter fun m' => m'.supports a).map ToolModule.name =
      out.next := by
  have some_char : e.name.toList ≠ [] := by simpa using (isPlainFileName_iff.1 plain).1
  have plain' : isPlainFileName a.name = true :=
    named ▸ isPlainFileName_append plain (slash_not_mem_suffix known
      (outputSuffixes_eq m.kind ▸ List.mem_map_of_mem writes))
  -- the extension is behind the last point of the suffix, the rest of it belongs to the front
  have next {front extension : String} (split : out.suffix = front ++ ("." ++ extension))
      (free : '.' ∉ extension.toList) (m' : ToolModule) : m'.supports a =
        (extensions m'.kind).contains (String.ofList (extension.toList.map Char.toLower)) := by
    refine @supports_eq a _ (e.name.toList ++ front.toList) plain' ?_ ?_ free m'
    · simp [named, split]
    · simp [some_char]
  rcases suffix_of_output known writes with ⟨goes, timeline⟩ | ⟨goes, table⟩
  · simp only [List.mem_cons, List.not_mem_nil, or_false] at timeline
    rcases timeline with ends | ends | ends
    · simp only [@next "" "jsonl" ends (by decide), goes]
      rfl
    · simp only [@next "" "plaso" ends (by decide), goes]
      rfl
    · simp only [@next ".mft" "plaso" ends (by decide), goes]
      rfl
  · simp only [List.mem_cons, List.not_mem_nil, or_false] at table
    rcases table with ends | ends
    · simp only [@next ".plaso" "csv" ends (by decide), goes]
      rfl
    · simp only [@next ".mft.plaso" "csv" ends (by decide), goes]
      rfl

/-! ## Runs -/

/-- **A run reports something** if and only if its tool ends well and all that is then to be
described can be. -/
theorem run_eq_ok_iff {artifacts : List Evidence} (writes : m.kind ≠ .timesketch)
    (given : job.evidence? = some e) (accepted : m.evidencePath e = .ok input) :
    m.run job h = (.ok artifacts, h') ↔ ∃ command files,
      m.Ends (runArguments m.kind input) h command (.code 0) files ∧
        describeOutputs m.kind e input (outputSuffixes m.kind)
          { h with files := files, started := h.started ++ [command] } = (.ok artifacts, h') := by
  rw [run_of_writes writes given]
  cases ended : m.execute (runArguments m.kind input) h with
  | mk result h₁ =>
    cases result with
    | error err =>
      have failed := (runWriting_of_error accepted (by rw [ended])).1
      constructor
      · intro reported
        rw [reported] at failed
        cases failed
      · rintro ⟨command, files, ends, -⟩
        rw [execute_eq_ok_iff.2 ⟨command, files, ends, rfl⟩] at ended
        cases ended
    | ok =>
      rw [runWriting_of_ok accepted (by rw [ended]), ended]
      obtain ⟨command, files, ends, rfl⟩ := execute_eq_ok_iff.1 ended
      refine ⟨fun described => ⟨command, files, ends, described⟩, ?_⟩
      rintro ⟨command', files', ends', described⟩
      have same := execute_eq_ok_iff.2 ⟨command', files', ends', rfl⟩
      rw [ended] at same
      rw [(Prod.mk.inj same).2]
      exact described

/-- What is described of the outputs is reported of them. -/
theorem reports_of_describes {artifacts : List Evidence} (known : m ∈ builtin tools directory)
    (accepted : m.evidencePath e = .ok input) (front : List String)
    (described : List.Forall₂ (Describes e input files) (outputSuffixes m.kind) artifacts) :
    List.Forall₂ (Reports tools m e (front ++ runArguments m.kind input) files)
      (toolOutputs m.kind) artifacts := by
  have plain_name := (evidencePath_eq_ok_iff.1 accepted).2.1
  rw [outputSuffixes_eq, List.forall₂_map_left_iff] at described
  -- which output it is has to be known for each, to know its argument and its next modules
  have both := List.forall₂_and_left _ _ |>.2 ⟨fun _ writes => writes, described⟩
  refine both.imp fun out a ⟨writes, name, caseId, source, entry, found, size⟩ => ?_
  have free := slash_not_mem_suffix known (outputSuffixes_eq m.kind ▸ List.mem_map_of_mem writes)
  exact {
    name, caseId, source
    file := ⟨_, entry, valueBehind?_command (slash_mem_of_accepted accepted) front writes,
      evidencePath_append accepted free caseId name, found, size⟩
    next := supporters_of_output known writes plain_name name tools m.directory }

/-- **What a run reports is what its tool was told to write.** The run ends well if and only if the
tool can be started, ends with code 0, and something stands at every path that it was told to write
to. Then the artifacts are the files at these paths, in the order of the arguments, and modules find
them there by name. -/
theorem outputs_reported (known : m ∈ builtin tools directory) (writes : m.kind ≠ .timesketch)
    (given : job.evidence? = some e) (plain_case : IsComponent e.caseId)
    (plain_name : IsComponent e.name) (h : Host) : ∃ input, m.evidencePath e = .ok input ∧
      ((∃ artifacts, (m.run job h).1 = .ok artifacts) ↔ ∃ command files,
        m.Ends (runArguments m.kind input) h command (.code 0) files ∧
          ∀ out ∈ toolOutputs m.kind, ∃ path,
            valueBehind? out.word command = some path ∧ files.Present path) ∧
      ∀ artifacts, (m.run job h).1 = .ok artifacts → ∃ command files,
        m.Ends (runArguments m.kind input) h command (.code 0) files ∧
          (m.run job h).2.files = files ∧ (m.run job h).2.started = h.started ++ [command] ∧
          List.Forall₂ (Reports tools m e command files) (toolOutputs m.kind) artifacts := by
  obtain ⟨input, accepted⟩ := exists_evidencePath_iff.2 ⟨plain_case, plain_name⟩
  have slash := slash_mem_of_accepted accepted
  refine ⟨input, accepted, ?_, fun artifacts reported => ?_⟩
  · constructor
    · rintro ⟨artifacts, reported⟩
      obtain ⟨command, files, ends, described⟩ :=
        (run_eq_ok_iff writes given accepted).1 (Prod.ext reported rfl)
      refine ⟨command, files, ends, ?_⟩
      obtain ⟨⟨own, -, -, rfl⟩, -⟩ := ends
      rw [present_behind_iff slash]
      exact (describeOutputs_ok_iff ..).1 ⟨artifacts, congrArg Prod.fst described⟩
    · rintro ⟨command, files, ends, there⟩
      have all : ∀ suffix ∈ outputSuffixes m.kind, files.Present (input ++ suffix) := by
        obtain ⟨⟨own, -, -, rfl⟩, -⟩ := ends
        exact (present_behind_iff slash own).1 there
      obtain ⟨artifacts, described⟩ := (describeOutputs_ok_iff m.kind e input _
        { h with files := files, started := h.started ++ [command] }).2 all
      exact ⟨artifacts, congrArg Prod.fst ((run_eq_ok_iff writes given accepted).2
        ⟨command, files, ends, Prod.ext described rfl⟩)⟩
  · obtain ⟨command, files, ends, described⟩ :=
      (run_eq_ok_iff writes given accepted).1 (Prod.ext reported rfl)
    obtain ⟨supply, after⟩ := describeOutputs_host m.kind e input (outputSuffixes m.kind)
      { h with files := files, started := h.started ++ [command] }
    rw [described] at after
    refine ⟨command, files, ends, congrArg Host.files after, congrArg Host.started after, ?_⟩
    obtain ⟨⟨own, -, -, rfl⟩, -⟩ := ends
    exact reports_of_describes known accepted own
      (forall_describes_of_ok (congrArg Prod.fst described))

/-- Storage and table of the archive are written. -/
def wellDone : Host :=
  hostWriting archived
    [("/e/C1/triage.zip.plaso", "storage"), ("/e/C1/triage.zip.plaso.csv", "table")] (.code 0)

/-- Storage and table of the archive are reported. -/
theorem outputs_reported_archive : plasoWindows ∈ builtin plasoOnly "/e" ∧
    plasoWindows.kind ≠ .timesketch ∧ archiveJob.evidence? = some archive ∧
    IsComponent archive.caseId ∧ IsComponent archive.name ∧
    ∃ command files storage table, (plasoWindows.run archiveJob wellDone).1 = .ok [storage, table] ∧
      Reports plasoOnly plasoWindows archive command files
        ⟨"--storage-file", ".plaso", ["Timesketch Importer"]⟩ storage ∧
      Reports plasoOnly plasoWindows archive command files ⟨"--write", ".plaso.csv", []⟩ table := by
  have known : plasoWindows ∈ builtin plasoOnly "/e" := by simp [builtin, plasoWindows]
  have plain_case : IsComponent archive.caseId := by unfold IsComponent; decide
  have plain_name : IsComponent archive.name := by unfold IsComponent; decide
  have given : archiveJob.evidence? = some archive := rfl
  refine ⟨known, by decide, given, plain_case, plain_name, ?_⟩
  obtain ⟨input, -, -, reported⟩ :=
    outputs_reported known (by decide) given plain_case plain_name wellDone
  obtain ⟨artifacts, ended⟩ : ∃ artifacts, (plasoWindows.run archiveJob wellDone).1 =
    .ok artifacts := ⟨_, rfl⟩
  obtain ⟨command, files, -, -, -, all⟩ := reported artifacts ended
  obtain ⟨storage, rest, of_storage, others, rfl⟩ := List.forall₂_cons_left_iff.1 all
  obtain ⟨table, rest, of_table, none_left, rfl⟩ := List.forall₂_cons_left_iff.1 others
  obtain rfl := List.forall₂_nil_left_iff.1 none_left
  exact ⟨command, files, storage, table, ended, of_storage, of_table⟩

end ToolModule
end Casework
