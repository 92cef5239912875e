/-
# What a run leaves of its outputs

A run that writes files looks which of its outputs are there, starts its tool, and then does one of
two things:

| the tool | then | outputs that were not there |
| --- | --- | --- |
| was not started, or did not end with code 0 | they are removed, the run fails | are not there |
| ended with code 0 and left every output | the run reports them | are there |
| ended with code 0 and left an output out | the run fails | are as the tool left them |

The third row is a failure after which nothing is removed.  So a failed run leaves an output behind
that was not there before if and only if its tool ended with code 0, having written one output and
not another one (`leaves_partial_output_iff`), which Plaso can do (`storage_left_behind`) and
Hayabusa, with one output, cannot.  The tool may write and remove files as it likes; directories it
leaves alone.
-/

import Casework.Module.Tool
import Casework.Proofs.Host.FileTree

namespace Casework

/-- Programs that the host starts write and remove files and leave the directories alone. -/
def Host.KeepsDirectories (h : Host) : Prop :=
  ∀ command files status files', h.launch command files = .ok (status, files') →
    files.SameDirectories files'

namespace ToolModule

open FileTree

variable {m : ToolModule} {job : JobDescriptor} {e : Evidence} {input : String} {h h' : Host}
  {kind : ToolKind} {suffix : String} {suffixes : List String}

/-! ## The tool -/

/-- Words with a NUL character cannot be handed over. -/
theorem has_nul_iff {command : List String} :
    (command.any fun word => word.toList.contains '\x00') = true ↔
      ¬∀ word ∈ command, '\x00' ∉ word.toList := by
  simp

/-- What running a tool comes to: it is not started, and all is as it was, or the configured one is,
with these arguments behind its own, and leaves what files it likes. -/
inductive Executes (m : ToolModule) (arguments : List String) (h : Host) :
    Except ModuleError Unit → Host → Prop
  | idle (err : ModuleError) : Executes m arguments h (.error err) h
  | ran {own : List String} {status : ExitStatus} {files : FileTree}
      (configured : m.command? = some own) (some_program : own ≠ [])
      (sendable : ∀ word ∈ own ++ arguments, '\x00' ∉ word.toList)
      (launched : h.launch (own ++ arguments) h.files = .ok (status, files)) :
      Executes m arguments h (outcome status)
        { h with files := files, started := h.started ++ [own ++ arguments] }

/-- **Running a tool** comes to nothing, or to a start of the configured one. -/
theorem executes (m : ToolModule) (arguments : List String) (h : Host) :
    Executes m arguments h (m.execute arguments h).1 (m.execute arguments h).2 := by
  unfold execute
  split
  · exact .idle _
  · exact .idle _
  · next own some_program configured =>
    cases ran : h.execute (own ++ arguments) with
    | mk result h₁ =>
      unfold Host.execute at ran
      split at ran
      · obtain ⟨rfl, rfl⟩ := Prod.mk.inj ran
        exact .idle _
      · next sendable =>
        split at ran
        · obtain ⟨rfl, rfl⟩ := Prod.mk.inj ran
          exact .idle _
        · next status files launched =>
          obtain ⟨rfl, rfl⟩ := Prod.mk.inj ran
          have handed := Classical.not_not.1 (mt has_nul_iff.2 sendable)
          exact .ran configured some_program handed launched

/-- A tool leaves the directories as they are, if programs do. -/
theorem execute_sameDirectories (keeps : h.KeepsDirectories) (m : ToolModule)
    (arguments : List String) : h.files.SameDirectories (m.execute arguments h).2.files := by
  have executed := executes m arguments h
  generalize (m.execute arguments h).1 = result at executed
  generalize (m.execute arguments h).2 = h' at executed ⊢
  cases executed with
  | idle err => exact .refl h.files
  | ran configured some_program sendable launched => exact keeps _ h.files _ _ launched

/-! ## The outputs afterwards -/

/-- Describing an output draws a name and a time, and changes nothing else. -/
theorem describeOutput_host (kind : ToolKind) (e : Evidence) (path suffix : String) (h : Host) :
    ∃ supply, (describeOutput kind e path suffix h).2 = { h with supply := supply } := by
  unfold describeOutput
  split
  · exact ⟨h.supply, rfl⟩
  · exact ⟨_, rfl⟩

/-- An output is described if and only if it is there. -/
theorem describeOutput_ok_iff (kind : ToolKind) (e : Evidence) (path suffix : String) (h : Host) :
    (∃ artifact, (describeOutput kind e path suffix h).1 = .ok artifact) ↔
      h.files.Present path := by
  rw [present_iff]
  unfold describeOutput
  split <;> simp_all

/-- To describe outputs takes ids from the supply and does no more. -/
theorem describeOutputs_host (kind : ToolKind) (e : Evidence) (input : String)
    (suffixes : List String) (h : Host) :
    ∃ supply, (describeOutputs kind e input suffixes h).2 = { h with supply := supply } := by
  induction suffixes generalizing h with
  | nil => exact ⟨h.supply, rfl⟩
  | cons suffix suffixes ih =>
    obtain ⟨supply, first⟩ := describeOutput_host kind e (input ++ suffix) suffix h
    rw [describeOutputs]
    split
    · next described => exact ⟨supply, by simpa [described] using first⟩
    · next h₁ described =>
      obtain rfl : h₁ = { h with supply := supply } := by simpa [described] using first
      obtain ⟨later, rest⟩ := ih { h with supply := supply }
      refine ⟨later, ?_⟩
      split <;> simp_all

/-- To describe outputs leaves the files. -/
theorem describeOutputs_files (kind : ToolKind) (e : Evidence) (input : String)
    (suffixes : List String) (h : Host) :
    (describeOutputs kind e input suffixes h).2.files = h.files := by
  obtain ⟨supply, same⟩ := describeOutputs_host kind e input suffixes h
  rw [same]

/-- **Outputs are described if and only if all are there.** -/
theorem describeOutputs_ok_iff (kind : ToolKind) (e : Evidence) (input : String)
    (suffixes : List String) (h : Host) :
    (∃ artifacts, (describeOutputs kind e input suffixes h).1 = .ok artifacts) ↔
      ∀ suffix ∈ suffixes, h.files.Present (input ++ suffix) := by
  induction suffixes generalizing h with
  | nil => simp [describeOutputs]
  | cons suffix suffixes ih =>
    have first := describeOutput_ok_iff kind e (input ++ suffix) suffix h
    obtain ⟨supply, same⟩ := describeOutput_host kind e (input ++ suffix) suffix h
    rw [describeOutputs, List.forall_mem_cons, ← first]
    split
    · next described => simp [described]
    · next h₁ described =>
      rw [described] at same
      have files : h₁.files = h.files := by simpa using congrArg Host.files same
      have rest := ih h₁
      rw [files] at rest
      rw [← rest, described]
      split <;> simp_all

/-! ## Runs -/

/-- The paths that a run on a job may write, none if it has no evidence that it accepts. -/
def outputsOf (m : ToolModule) (job : JobDescriptor) : List String :=
  match job.evidence?.map m.evidencePath with
  | some (.ok input) => outputPaths m.kind input
  | _ => []

/-- The run fails, and something stands at one of its outputs where nothing stood. -/
def LeavesPartialOutput (m : ToolModule) (job : JobDescriptor) (h : Host) : Prop :=
  (∃ err, (m.run job h).1 = .error err) ∧
    ∃ path ∈ m.outputsOf job, ¬h.files.Present path ∧ (m.run job h).2.files.Present path

/-- The tool was started for a job, ended with code 0 and left these files. -/
def EndsWell (m : ToolModule) (job : JobDescriptor) (h : Host) (files : FileTree) : Prop :=
  ∃ e input, job.evidence? = some e ∧ m.evidencePath e = .ok input ∧
    (m.execute (runArguments m.kind input) h).1 = .ok () ∧
    (m.execute (runArguments m.kind input) h).2.files = files

/-- The outputs of a job are those of the path that its item is taken by. -/
theorem outputsOf_eq (given : job.evidence? = some e) (accepted : m.evidencePath e = .ok input) :
    m.outputsOf job = outputPaths m.kind input := by
  simp [outputsOf, given, accepted]

/-- An output is the input with a suffix. -/
theorem mem_outputPaths {path : String} : path ∈ outputPaths kind input ↔
    ∃ suffix ∈ outputSuffixes kind, input ++ suffix = path :=
  List.mem_map

/-- Outputs are written beside the file of the job's evidence. -/
theorem exists_input {path : String} (written : path ∈ m.outputsOf job) :
    ∃ e input, job.evidence? = some e ∧ m.evidencePath e = .ok input := by
  unfold outputsOf at written
  split at written
  · next input found =>
    obtain ⟨e, given, accepted⟩ := Option.map_eq_some_iff.1 found
    exact ⟨e, input, given, accepted⟩
  · cases written

/-- A module that does not upload writes. -/
theorem run_of_writes (writes : m.kind ≠ .timesketch) (given : job.evidence? = some e) :
    m.run job h = m.runWriting e h := by
  rw [run, given]
  dsimp only
  split
  · next uploads => exact absurd uploads writes
  · rfl

/-- A run that has outputs is one that writes files. -/
theorem run_eq_runWriting {path : String} (written : path ∈ m.outputsOf job)
    (given : job.evidence? = some e) (accepted : m.evidencePath e = .ok input) :
    m.run job h = m.runWriting e h := by
  rw [outputsOf_eq given accepted] at written
  refine run_of_writes (fun upload => ?_) given
  simp [upload, outputPaths, outputSuffixes] at written

/-- **If the tool does not end well,** the run fails, and what was fresh among the outputs is
removed. -/
theorem runWriting_of_error {err : ModuleError} (accepted : m.evidencePath e = .ok input)
    (ended : (m.execute (runArguments m.kind input) h).1 = .error err) :
    (m.runWriting e h).1 = .error err ∧ (m.runWriting e h).2.files =
      removeOutputs (m.execute (runArguments m.kind input) h).2.files
        (freshOutputs h.files (outputPaths m.kind input)) := by
  rw [runWriting, accepted]
  dsimp only
  split <;> simp_all

/-- **If the tool ends well,** the run is the description of the outputs. -/
theorem runWriting_of_ok (accepted : m.evidencePath e = .ok input)
    (ended : (m.execute (runArguments m.kind input) h).1 = .ok ()) :
    m.runWriting e h = describeOutputs m.kind e input (outputSuffixes m.kind)
      (m.execute (runArguments m.kind input) h).2 := by
  rw [runWriting, accepted]
  dsimp only
  split <;> simp_all

/-- What was fresh is not there after it was removed. -/
theorem not_present_removeOutputs {t : FileTree} {paths : List String} {path : String}
    (same : h.files.SameDirectories t) (written : path ∈ paths)
    (before : ¬h.files.Present path) :
    ¬(removeOutputs t (freshOutputs h.files paths)).Present path :=
  not_present_removeAll same
    (fun absent => List.mem_filter.2 ⟨written, beq_iff_eq.2 absent⟩) before

/-- **After a tool that ended well** the files are as it left them, and the run fails if and only if
an output is missing. -/
theorem run_of_endsWell {files : FileTree} {path : String} (ends : m.EndsWell job h files)
    (written : path ∈ m.outputsOf job) : (m.run job h).2.files = files ∧
      ((∃ err, (m.run job h).1 = .error err) ↔ ∃ path ∈ m.outputsOf job, ¬files.Present path) := by
  obtain ⟨e, input, given, accepted, ended, rfl⟩ := ends
  have described := describeOutputs_ok_iff m.kind e input (outputSuffixes m.kind)
    (m.execute (runArguments m.kind input) h).2
  rw [run_eq_runWriting written given accepted, runWriting_of_ok accepted ended,
    outputsOf_eq given accepted]
  refine ⟨describeOutputs_files .., ?_⟩
  have failed (r : Except ModuleError (List Evidence)) :
      (∃ err, r = .error err) ↔ ¬∃ artifacts, r = .ok artifacts := by
    cases r <;> simp
  rw [failed, described]
  constructor
  · intro some_missing
    obtain ⟨suffix, some_missing⟩ := Classical.not_forall.1 some_missing
    obtain ⟨writes, missing⟩ := Classical.not_imp.1 some_missing
    exact ⟨_, mem_outputPaths.2 ⟨suffix, writes, rfl⟩, missing⟩
  · rintro ⟨_, written', missing⟩ all_there
    obtain ⟨suffix, writes, rfl⟩ := mem_outputPaths.1 written'
    exact missing (all_there suffix writes)

/-- **After a tool that did not end well** no output is there that was not there before. -/
theorem not_present_of_not_endsWell {path : String} (keeps : h.KeepsDirectories)
    (ends : ∀ files, ¬m.EndsWell job h files) (written : path ∈ m.outputsOf job)
    (before : ¬h.files.Present path) : ¬(m.run job h).2.files.Present path := by
  obtain ⟨e, input, given, accepted⟩ := exists_input written
  cases ended : (m.execute (runArguments m.kind input) h).1 with
  | ok u => exact absurd ⟨e, input, given, accepted, ended, rfl⟩ (ends _)
  | error err =>
    rw [run_eq_runWriting written given accepted, (runWriting_of_error accepted ended).2]
    rw [outputsOf_eq given accepted] at written
    exact not_present_removeOutputs (execute_sameDirectories keeps m _) written before

/-- A run with one output has none that is missing beside one that is there. -/
theorem eq_of_mem_outputsOf {path path' : String} (single : m.kind = .hayabusa)
    (written : path ∈ m.outputsOf job) (written' : path' ∈ m.outputsOf job) : path = path' := by
  obtain ⟨e, input, given, accepted⟩ := exists_input written
  rw [outputsOf_eq given accepted, single] at written written'
  simp only [outputPaths, outputSuffixes, List.map_cons, List.map_nil, List.mem_singleton]
    at written written'
  rw [written, written']

/-- **A failed run leaves an output behind** that was not there before if and only if its tool ended
with code 0 and had written that output and not another one. A run with a single output never does.
-/
theorem leaves_partial_output_iff (keeps : h.KeepsDirectories) :
    (m.LeavesPartialOutput job h ↔ ∃ files, m.EndsWell job h files ∧
      (∃ path ∈ m.outputsOf job, ¬h.files.Present path ∧ files.Present path) ∧
      ∃ path ∈ m.outputsOf job, ¬files.Present path) ∧
    (m.kind = .hayabusa → ¬m.LeavesPartialOutput job h) := by
  have exact_condition : m.LeavesPartialOutput job h ↔ ∃ files, m.EndsWell job h files ∧
      (∃ path ∈ m.outputsOf job, ¬h.files.Present path ∧ files.Present path) ∧
      ∃ path ∈ m.outputsOf job, ¬files.Present path := by
    constructor
    · rintro ⟨failed, path, written, before, after⟩
      by_cases ends : ∃ files, m.EndsWell job h files
      · obtain ⟨files, ends⟩ := ends
        obtain ⟨left, fails⟩ := run_of_endsWell ends written
        exact ⟨files, ends, ⟨path, written, before, left ▸ after⟩, fails.1 failed⟩
      · exact absurd after (not_present_of_not_endsWell keeps (not_exists.1 ends) written before)
    · rintro ⟨files, ends, ⟨path, written, before, after⟩, missing⟩
      obtain ⟨left, fails⟩ := run_of_endsWell ends written
      exact ⟨fails.2 missing, path, written, before, left ▸ after⟩
  refine ⟨exact_condition, fun single leaves => ?_⟩
  obtain ⟨files, -, ⟨path, written, -, there⟩, path', written', missing⟩ := exact_condition.1 leaves
  exact missing (eq_of_mem_outputsOf single written written' ▸ there)

/-! ## An archive and a tool that leaves the table out -/

/-- A host on which every tool writes the same files and ends in the same way. -/
def hostWriting (files : FileTree) (writes : List (String × String)) (status : ExitStatus) :
    Host where
  files := files
  launch _ t := .ok (status, writes.foldl (fun t w => t.write w.1 w.2) t)
  supply := .seeded 0 .epoch

/-- Programs that write files leave the directories. -/
theorem hostWriting_keepsDirectories (files : FileTree) (writes : List (String × String))
    (status : ExitStatus) : (hostWriting files writes status).KeepsDirectories := by
  intro command t status' t' launched
  obtain ⟨-, rfl⟩ := Prod.mk.inj (Except.ok.inj launched)
  have same (writes : List (String × String)) (t : FileTree) :
      t.SameDirectories (writes.foldl (fun t w => t.write w.1 w.2) t) := by
    induction writes generalizing t with
    | nil => exact .refl t
    | cons w writes ih => exact (sameDirectories_write t w.1 w.2).trans (ih _)
  exact same writes t

/-- A case with an archive. -/
def archive : Evidence := ⟨"E1", "C1", "Other", "triage.zip", "DC01", "", 2, "", .epoch⟩

/-- The archive in the directory of its case. -/
def archived : FileTree where
  directories := [["e"], ["e", "C1"]]
  files := [(["e", "C1", "triage.zip"], "PK")]

/-- A configuration with one tool. -/
def plasoOnly : ToolsConfig := { plaso? := some ["psteal.py"] }

/-- The built-in module for what Windows left. -/
def plasoWindows : ToolModule :=
  ⟨"Plaso (Windows Preset)", plasoText, .plaso "win7" ".plaso", plasoOnly.plaso?, none, "/e"⟩

/-- The archive as a job of that module. -/
def archiveJob : JobDescriptor :=
  ⟨"job", "w", "Plaso (Windows Preset)", some ⟨"C1", "Case One", 3⟩, some archive⟩

/-- Half of the storage is written and no table, and the tool ends as if all was well. -/
def halfWay : Host := hostWriting archived [("/e/C1/triage.zip.plaso", "half a storage")] (.code 0)

/-- **Half a storage stays behind.** The run fails for want of the table, and the storage, which was
not there before, is there afterwards. -/
theorem storage_left_behind : plasoWindows ∈ builtin plasoOnly "/e" ∧ halfWay.KeepsDirectories ∧
    plasoWindows.LeavesPartialOutput archiveJob halfWay :=
  ⟨by simp [builtin, plasoWindows], hostWriting_keepsDirectories _ _ _, ⟨_, rfl⟩,
    "/e/C1/triage.zip.plaso", by decide +kernel, by decide +kernel, by decide +kernel⟩

/-- A tool that writes half a storage and breaks off leaves nothing behind. -/
theorem leaves_partial_output_iff_broken_off :
    (hostWriting archived [("/e/C1/triage.zip.plaso", "half a storage")] .signal).KeepsDirectories ∧
      ¬plasoWindows.LeavesPartialOutput archiveJob
        (hostWriting archived [("/e/C1/triage.zip.plaso", "half a storage")] .signal) := by
  have keeps := hostWriting_keepsDirectories archived
    [("/e/C1/triage.zip.plaso", "half a storage")] .signal
  refine ⟨keeps, fun leaves => ?_⟩
  obtain ⟨files, ⟨e, input, given, accepted, ended, -⟩, -⟩ :=
    (leaves_partial_output_iff keeps).1.1 leaves
  obtain rfl : archive = e := Option.some.inj given
  obtain rfl := Except.ok.inj ((show plasoWindows.evidencePath archive = .ok "/e/C1/triage.zip" by
    rfl).symm.trans accepted)
  cases ended

end ToolModule
end Casework
