/-
# Tool modules stay in the directory of the case

Where a run reads and writes is decided by two texts that others have chosen, the case and the name
of the item.  Both have to be single components of a path (`IsComponent`); then the input and every
output lie directly in the directory of the case, whatever the tree (`inCase_of_accepted`), and a
tool gets no other path from the run.

| a run of a module | starts a tool | deletes itself |
| --- | --- | --- |
| on an item that is refused, or none | no | nothing |
| whose tool does not end well | if one starts, the configured one | outputs that were absent |
| whose tool ends with code 0 | the configured one | nothing |

The table is `run_goes`, and `stays_in_case` is read off it.  Runs that overlap delete no more: what
one of them deletes are outputs of its own that were absent when it looked (`deletes_step`).
-/

import Casework.Proofs.Module.Artifacts
import Casework.Proofs.Module.Overlap

namespace Casework

/-- The second tree comes from the first by deleting files that stand at some of the paths. -/
structure FileTree.Deletes (t t' : FileTree) (at? : String → Prop) : Prop where
  directories : t.SameDirectories t'
  /-- No file is written. -/
  kept (p : Place) (content : String) :
    t'.entryAt? p = some (.file content) → t.entryAt? p = some (.file content)
  gone (p : Place) (content : String) : t.entryAt? p = some (.file content) →
    t'.entryAt? p ≠ some (.file content) → ∃ path, at? path ∧ t.place path = .ok p

namespace FileTree

/-- To do nothing deletes nothing elsewhere. -/
theorem Deletes.refl (t : FileTree) (at? : String → Prop) : t.Deletes t at? :=
  ⟨.refl t, fun _ _ there => there, fun _ _ there gone => absurd there gone⟩

/-- What is deleted at some paths is deleted at more. -/
theorem Deletes.mono {t t' : FileTree} {at? at?' : String → Prop} (h : t.Deletes t' at?)
    (wider : ∀ path, at? path → at?' path) : t.Deletes t' at?' := by
  refine ⟨h.directories, h.kept, fun p content there gone => ?_⟩
  obtain ⟨path, among, leads⟩ := h.gone p content there gone
  exact ⟨path, wider path among, leads⟩

/-- To remove paths deletes files at them only. -/
theorem deletes_removeAll (t : FileTree) (paths : List String) :
    t.Deletes (paths.foldl remove t) (· ∈ paths) := by
  refine ⟨sameDirectories_removeAll t paths, fun p content there => (file_removeAll_iff.1 there).1,
    fun p content there gone => ?_⟩
  refine Classical.byContradiction fun untouched => gone (file_removeAll_iff.2 ⟨there, ?_⟩)
  exact fun path among leads => untouched ⟨path, among, leads⟩

end FileTree

namespace ToolModule

open FileTree

variable {m : ToolModule} {job : JobDescriptor} {e : Evidence} {h : Host} {tools : ToolsConfig}
  {directory input path : String} {arguments : List String}

/-! ## Where the paths lead -/

/-- A path that lies directly in the directory of a case: it is the path of that directory with one
ordinary component more, and wherever that directory is, it leads to the entry there. -/
def InCase (directory caseId path : String) : Prop :=
  ∃ name, IsComponent name ∧ path = joinPath (joinPath directory caseId) name ∧
    ∀ (t : FileTree) p, t.place path = .ok p →
      ∃ q, t.place (joinPath directory caseId) = .ok q ∧ p = q ++ [name]

/-- **A component behind the directory of a case** lies in it. -/
theorem inCase_joinPath {caseId name : String} (plain_case : isPlainFileName caseId = true)
    (plain : isPlainFileName name = true) (directory : String) :
    InCase directory caseId (joinPath (joinPath directory caseId) name) :=
  ⟨name, isPlainFileName_iff_isComponent.1 plain, rfl, fun _ _ led =>
    place_joinPath plain (joinPath_ne_empty (isPlainFileName_iff.1 plain_case).1 directory) led⟩

/-- **Input and outputs lie directly in the directory of the case.** -/
theorem inCase_of_accepted (known : m ∈ builtin tools directory)
    (accepted : m.evidencePath e = .ok input) :
    ∀ path ∈ input :: outputPaths m.kind input, InCase directory e.caseId path := by
  obtain ⟨plain_case, plain_name, rfl⟩ := evidencePath_eq_ok_iff.1 accepted
  rw [directory_of_builtin known, List.forall_mem_cons]
  refine ⟨inCase_joinPath plain_case plain_name directory, fun path written => ?_⟩
  obtain ⟨suffix, writes, rfl⟩ := mem_outputPaths.1 written
  rw [joinPath_append]
  exact inCase_joinPath plain_case
    (isPlainFileName_append plain_name (slash_not_mem_suffix known writes)) directory

/-! ## What a tool gets and leaves -/

/-- The arguments of a run that name no file. They do not depend on the item. -/
def words (m : ToolModule) (job : JobDescriptor) : List String :=
  match m.kind, m.timesketch?, job.case? with
  | .hayabusa, _, _ =>
    ["json-timeline", "--JSONL-output", "--RFC-3339", "--UTC", "--no-wizard", "--min-level",
      "informational", "--profile", "timesketch-verbose", "--file", "--output"]
  | .plaso parsers _, _, _ =>
    ["--unattended", "--parsers", parsers, "--output-format", "dynamic", "--source",
      "--storage-file", "--write"]
  | .timesketch, some target, some c =>
    ["--quick", "--host", target.url, "-u", target.user, "-p", target.password, "--sketch_id",
      toString c.sketchId.toInt]
  | .timesketch, _, _ => []

/-- The arguments are words, and paths of the item that a job is on. -/
def Hands (m : ToolModule) (job : JobDescriptor) (arguments : List String) : Prop :=
  ∀ a ∈ arguments, a ∈ m.words job ∨ ∃ e input, job.evidence? = some e ∧
    m.evidencePath e = .ok input ∧ a ∈ input :: outputPaths m.kind input

/-- How a run goes: it starts nothing and fails, or its tool does not end well and what was absent
before is removed, or its tool ends well and the files stay as they are. -/
inductive Goes (m : ToolModule) (job : JobDescriptor) (h : Host) :
    Except ModuleError (List Evidence) → Host → Prop
  | refused (err : ModuleError) : Goes m job h (.error err) h
  | failed {arguments : List String} {err : ModuleError} {h' : Host}
      (hands : m.Hands job arguments)
      (ended : m.execute arguments h = (.error err, h')) :
      Goes m job h (.error err)
        { h' with files := removeOutputs h'.files (freshOutputs h.files (m.outputsOf job)) }
  | done {arguments : List String} {result : Except ModuleError (List Evidence)} {h' h'' : Host}
      (hands : m.Hands job arguments) (ended : m.execute arguments h = (.ok (), h'))
      (files : h''.files = h'.files) (started : h''.started = h'.started) :
      Goes m job h result h''

/-- The arguments of a run that writes files are words and paths. -/
theorem hands_runArguments (given : job.evidence? = some e)
    (accepted : m.evidencePath e = .ok input) : m.Hands job (runArguments m.kind input) := by
  intro a among
  have split : a ∈ m.words job ∨ a ∈ input :: outputPaths m.kind input := by
    -- the arguments are a fixed list for each tool, and each of them is on one side
    cases kind : m.kind <;>
      simp only [kind, runArguments, words, outputPaths, outputSuffixes, List.mem_cons,
        List.map_cons, List.map_nil, List.not_mem_nil, String.append_assoc] at among ⊢ <;>
      grind
  exact split.imp_right fun path => ⟨e, input, given, accepted, path⟩

/-- A run that writes outputs goes one of these ways. -/
theorem goes_runWriting (given : job.evidence? = some e) :
    Goes m job h (m.runWriting e h).1 (m.runWriting e h).2 := by
  unfold runWriting
  cases accepted : m.evidencePath e with
  | error err => exact .refused err
  | ok input =>
    have hands := hands_runArguments given accepted
    dsimp only
    rw [← outputsOf_eq given accepted]
    split
    · next err h' ended => exact .failed hands ended
    · next h' ended =>
      obtain ⟨supply, after⟩ := describeOutputs_host m.kind e input (outputSuffixes m.kind) h'
      exact .done hands ended (by rw [after]) (by rw [after])

/-- A run that uploads goes one of these ways. -/
theorem goes_runUpload (given : job.evidence? = some e) (uploads : m.kind = .timesketch) :
    Goes m job h (m.runUpload job e h).1 (m.runUpload job e h).2 := by
  unfold runUpload
  split
  · exact .refused _
  · exact .refused _
  · next target c configured case =>
    split
    · exact .refused _
    · cases accepted : m.evidencePath e with
      | error err => exact .refused err
      | ok input =>
        have hands : m.Hands job ["--quick", "--host", target.url, "-u", target.user, "-p",
            target.password, "--sketch_id", toString c.sketchId.toInt, input] := by
          intro a among
          have split : a ∈ m.words job ∨ a = input := by
            simp only [words, uploads, configured, case, List.mem_cons, List.not_mem_nil]
              at among ⊢
            grind
          refine split.imp_right fun own => ⟨e, input, given, accepted, ?_⟩
          exact List.mem_cons.2 (.inl own)
        -- an upload has no outputs, so there is nothing that it could remove
        have nothing : m.outputsOf job = [] := by
          rw [outputsOf_eq given accepted, uploads]
          rfl
        dsimp only
        split
        · next err h' ended =>
          have failed := Goes.failed hands ended
          rw [nothing] at failed
          exact failed
        · next h' ended => exact .done hands ended rfl rfl

/-- **Every run goes in one of these ways.** -/
theorem run_goes (m : ToolModule) (job : JobDescriptor) (h : Host) :
    Goes m job h (m.run job h).1 (m.run job h).2 := by
  unfold run
  cases given : job.evidence? with
  | none => exact .refused _
  | some e =>
    dsimp only
    split
    · next uploads => exact goes_runUpload given uploads
    · exact goes_runWriting given

/-- A run on an item that is refused fails and leaves the host as it is. -/
theorem run_of_refused {err : ModuleError} (given : job.evidence? = some e)
    (refused : m.evidencePath e = .error err) : ∃ err', m.run job h = (.error err', h) := by
  unfold run runUpload runWriting
  simp only [given, refused]
  repeat' split
  all_goals exact ⟨_, rfl⟩

/-! ## What is reported -/

/-- Every artifact is the one of some suffix. -/
theorem exists_suffix_of_mem {files : FileTree} {suffixes : List String} {a : Evidence}
    {artifacts : List Evidence}
    (described : List.Forall₂ (Describes e input files) suffixes artifacts)
    (among : a ∈ artifacts) : ∃ suffix ∈ suffixes, Describes e input files suffix a := by
  induction described with
  | nil => cases among
  | @cons suffix first suffixes artifacts of_first _ ih =>
    rcases List.mem_cons.1 among with rfl | among
    · exact ⟨suffix, .head _, of_first⟩
    · obtain ⟨suffix, among, of_suffix⟩ := ih among
      exact ⟨suffix, .tail _ among, of_suffix⟩

/-- A run that uploads reports nothing. -/
theorem eq_nil_of_runUpload {artifacts : List Evidence}
    (reported : (m.runUpload job e h).1 = .ok artifacts) : artifacts = [] := by
  unfold runUpload at reported
  repeat' split at reported
  all_goals cases reported
  rfl

/-- **What is reported is found at an output of the run.** -/
theorem path_of_reported {artifacts : List Evidence} {a : Evidence}
    (known : m ∈ builtin tools directory) (reported : (m.run job h).1 = .ok artifacts)
    (among : a ∈ artifacts) : ∃ path ∈ m.outputsOf job, m.evidencePath a = .ok path := by
  cases given : job.evidence? with
  | none =>
    rw [run, given] at reported
    cases reported
  | some e =>
    cases accepted : m.evidencePath e with
    | error err =>
      obtain ⟨err', refused⟩ := @run_of_refused m job e h err given accepted
      rw [refused] at reported
      cases reported
    | ok input =>
      by_cases uploads : m.kind = .timesketch
      · rw [run, given] at reported
        simp only [uploads] at reported
        rw [eq_nil_of_runUpload reported] at among
        cases among
      · obtain ⟨command, files, -, described⟩ :=
          (run_eq_ok_iff uploads given accepted).1 (Prod.ext reported rfl)
        obtain ⟨suffix, writes, name, caseId, -⟩ :=
          exists_suffix_of_mem (forall_describes_of_ok (congrArg Prod.fst described)) among
        refine ⟨input ++ suffix, ?_, evidencePath_append accepted
          (slash_not_mem_suffix known writes) caseId name⟩
        rw [outputsOf_eq given accepted]
        exact mem_outputPaths.2 ⟨suffix, writes, rfl⟩

/-! ## What is deleted -/

/-- **A run deletes** nothing but outputs that were absent when it began, and nothing at all if it
ends well. -/
theorem deletes_run (m : ToolModule) (job : JobDescriptor) (h : Host) :
    ∃ arguments ended h₁, m.Hands job arguments ∧ Executes m arguments h ended h₁ ∧
      (m.run job h).2.started = h₁.started ∧
      h₁.files.Deletes (m.run job h).2.files
        (fun path => path ∈ m.outputsOf job ∧ h.files.Absent path) ∧
      ((∃ artifacts, (m.run job h).1 = .ok artifacts) → (m.run job h).2.files = h₁.files) := by
  have goes := run_goes m job h
  generalize (m.run job h).1 = result at goes ⊢
  generalize (m.run job h).2 = h' at goes ⊢
  cases goes with
  | refused err => exact ⟨[], .error err, h, nofun, .idle err, rfl, .refl _ _, fun _ => rfl⟩
  | @failed arguments err h₁ hands ended =>
    have executed := executes m arguments h
    rw [ended] at executed
    refine ⟨_, _, _, hands, executed, rfl, (deletes_removeAll _ _).mono fun path noted => ?_, nofun⟩
    obtain ⟨written, absent⟩ := List.mem_filter.1 noted
    exact ⟨written, beq_iff_eq.1 absent⟩
  | @done arguments result h₁ h₂ hands ended files started =>
    have executed := executes m arguments h
    rw [ended] at executed
    rw [files]
    exact ⟨_, _, _, hands, executed, started, .refl _ _, fun _ => rfl⟩

/-- **A tool module stays in the directory of the case.** An item has a path if and only if its case
and its name are single components. Then its input and its outputs lie directly in the directory of
the case, and they are all that a run hands to its tool beside fixed words, and all that it reports.
A run on an item that is refused fails and leaves everything as it is. Whatever the tool does, what
the run itself deletes afterwards are outputs that were absent before, and nothing if it ends well.
-/
theorem stays_in_case (known : m ∈ builtin tools directory) (job : JobDescriptor) (h : Host) :
    (∀ e, (∃ path, m.evidencePath e = .ok path) ↔ IsComponent e.caseId ∧ IsComponent e.name) ∧
    (∀ e input, m.evidencePath e = .ok input →
      (∀ path ∈ input :: outputPaths m.kind input, InCase directory e.caseId path) ∧
      (job.evidence? = some e → m.outputsOf job = outputPaths m.kind input)) ∧
    (∀ e err, job.evidence? = some e → m.evidencePath e = .error err →
      ∃ err', m.run job h = (.error err', h)) ∧
    (∀ artifacts, (m.run job h).1 = .ok artifacts →
      ∀ a ∈ artifacts, ∃ path ∈ m.outputsOf job, m.evidencePath a = .ok path) ∧
    ∃ arguments ended h₁, m.Hands job arguments ∧ Executes m arguments h ended h₁ ∧
      (m.run job h).2.started = h₁.started ∧
      h₁.files.Deletes (m.run job h).2.files
        (fun path => path ∈ m.outputsOf job ∧ h.files.Absent path) ∧
      ((∃ artifacts, (m.run job h).1 = .ok artifacts) → (m.run job h).2.files = h₁.files) :=
  ⟨fun _ => exists_evidencePath_iff,
    fun _ _ accepted => ⟨inCase_of_accepted known accepted,
      fun given => outputsOf_eq given accepted⟩,
    fun _ _ given refused => run_of_refused given refused,
    fun _ reported _ among => path_of_reported known reported among,
    deletes_run m job h⟩

/-- An archive whose name leads out of its case. -/
def traversing : Evidence := { archive with name := "../C2/triage.zip" }

/-- The archive of another case is not read, and nothing is started. -/
theorem stays_in_case_traversing : plasoWindows ∈ builtin plasoOnly "/e" ∧
    (¬∃ path, plasoWindows.evidencePath traversing = .ok path) ∧
    ∃ err, plasoWindows.run { archiveJob with evidence? := some traversing } halfWay =
      (.error err, halfWay) := by
  have known : plasoWindows ∈ builtin plasoOnly "/e" := by simp [builtin, plasoWindows]
  obtain ⟨accepts, -, refuses, -⟩ :=
    stays_in_case known { archiveJob with evidence? := some traversing } halfWay
  have bad_name : ¬IsComponent traversing.name := by unfold IsComponent; decide
  refine ⟨known, fun accepted => bad_name ((accepts traversing).1 accepted).2, ?_⟩
  exact refuses traversing _ rfl rfl

end ToolModule

namespace Workshop

/-- **A step of a run among others that starts no tool** deletes nothing but outputs of that run
that were absent when it looked, whatever the others have done since. -/
theorem deletes_step {w : Workshop} {tools : ToolsConfig} {directory : String} {i : Nat}
    {turns : List WorkshopTurn} (opened : w.Opened tools directory)
    (idle : ¬(w.after turns).StartsTool i)
    (launch : List String → FileTree → Except String (ExitStatus × FileTree)) :
    (w.after turns).host.files.Deletes ((w.after turns).step (.next i launch)).host.files
      (fun path => path ∈ w.outputs i ∧ w.Missed turns i path) := by
  cases here : (w.after turns).runs[i]? with
  | none =>
    rw [step_next_of_none here]
    exact .refl _ _
  | some r =>
    obtain ⟨r₀, stage, from_i, rfl⟩ := exists_run here
    rw [files_step_next here]
    rcases ToolRun.next_files (h := (w.after turns).hostFor launch)
      (fun starts => idle ⟨_, here, starts⟩) with same | ⟨e, input, fresh, err, ended⟩
    · rw [same]
      exact .refl _ _
    · rw [ToolRun.next_files_of_failed ended]
      refine (FileTree.deletes_removeAll _ fresh).mono fun path noted => ?_
      have waits := opened.waiting r₀ (List.mem_of_getElem? from_i)
      exact (mem_fresh_iff from_i waits here ended path).1 noted

end Workshop
end Casework
