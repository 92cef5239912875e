/-
# Runs that overlap

A worker has several runs under way at once, and nothing keeps two of them from the same item.  The
steps of a run are far apart:

| the run | its step | files |
| --- | --- | --- |
| waits | looks which of its outputs are there | stay |
| has looked | lets its tool run to its end | change as the tool likes |
| has a tool that failed | removes the outputs that it had not seen when it looked | are removed |
| has a tool that ended well | reports its outputs | stay |

In between the others take theirs.  So what a run removes was absent when it looked, which says
nothing about when it removes it: a file that another run has reported since is lost to a step that
does not start a tool if and only if the tool of that run has failed, the file is among its own
outputs, and the file was not there when it looked (`report_lost_iff`).  Two modules for the same
kind of archive have the same outputs, and then the later one can destroy what the earlier one
reported (`report_destroyed`).
-/

import Casework.Proofs.Module.Outputs
import Casework.Proofs.Module.Paths

namespace Casework

open ToolModule

/-- How far a run of a tool module has come. -/
inductive ToolStage where
  | waiting
  /-- The outputs that were absent are noted, and the tool may run. -/
  | looked (e : Evidence) (input : String) (fresh : List String)
  /-- The tool is over. -/
  | ended (e : Evidence) (input : String) (fresh : List String)
      (outcome : Except ModuleError Unit)
  | finished (result : Except ModuleError (List Evidence))

/-- A run of a tool module on a job. -/
structure ToolRun where
  tool : ToolModule
  job : JobDescriptor
  stage : ToolStage := .waiting

namespace ToolRun

variable {r : ToolRun} {h : Host} {e : Evidence} {input : String} {fresh : List String}

/-- The next step of a run: the stage that it comes to, and the host afterwards. A run that uploads
has no outputs and takes one step. -/
def next (r : ToolRun) (h : Host) : ToolStage × Host :=
  match r.stage with
  | .waiting =>
    match r.job.evidence? with
    | none => (.finished (.error .missingEvidence), h)
    | some e =>
      if r.tool.kind = .timesketch then (r.tool.runUpload r.job e h).map .finished id
      else
        match r.tool.evidencePath e with
        | .error err => (.finished (.error err), h)
        | .ok input =>
          (.looked e input (freshOutputs h.files (outputPaths r.tool.kind input)), h)
  | .looked e input fresh =>
    (r.tool.execute (runArguments r.tool.kind input) h).map (.ended e input fresh) id
  | .ended _ _ fresh (.error err) =>
    (.finished (.error err), { h with files := removeOutputs h.files fresh })
  | .ended e input _ (.ok ()) =>
    (describeOutputs r.tool.kind e input (outputSuffixes r.tool.kind) h).map .finished id
  | .finished result => (.finished result, h)

/-- The run with its next step taken. -/
def advance (r : ToolRun) (h : Host) : ToolRun × Host :=
  ({ r with stage := (r.next h).1 }, (r.next h).2)

/-- **Three steps that nothing comes between are a run of the module.** -/
theorem advance_thrice (m : ToolModule) (job : JobDescriptor) (h : Host) :
    let first := advance ⟨m, job, .waiting⟩ h
    let second := first.1.advance first.2
    second.1.advance second.2 = (⟨m, job, .finished (m.run job h).1⟩, (m.run job h).2) := by
  unfold ToolModule.run
  cases given : job.evidence? with
  | none => simp [advance, next, given]
  | some e =>
    by_cases upload : m.kind = .timesketch
    · simp [advance, next, given, upload]
    · cases accepted : m.evidencePath e with
      | error err => simp [advance, next, given, upload, accepted, runWriting]
      | ok input =>
        cases tool : m.execute (runArguments m.kind input) h with
        | mk outcome h₁ =>
          cases outcome <;>
            simp [advance, next, given, upload, accepted, runWriting, tool]

/-- The next step starts a tool. -/
def StartsTool (r : ToolRun) : Prop :=
  (∃ e input fresh, r.stage = .looked e input fresh) ∨
    (r.stage = .waiting ∧ r.tool.kind = .timesketch)

/-- **A step that starts no tool** leaves the files as they are, unless it cleans up. -/
theorem next_files (idle : ¬r.StartsTool) : (r.next h).2.files = h.files ∨
    ∃ e input fresh err, r.stage = .ended e input fresh (.error err) := by
  cases stage : r.stage with
  | waiting =>
    left
    have writes : r.tool.kind ≠ .timesketch := fun upload => idle (.inr ⟨stage, upload⟩)
    unfold next
    rw [stage]
    dsimp only
    split
    · rfl
    · rw [if_neg writes]
      split <;> rfl
  | looked e input fresh => exact absurd (.inl ⟨e, input, fresh, stage⟩) idle
  | ended e input fresh outcome =>
    cases outcome with
    | error err => exact .inr ⟨e, input, fresh, err, rfl⟩
    | ok u =>
      left
      simp only [next, stage]
      exact describeOutputs_files ..
  | finished result =>
    left
    simp only [next, stage]

/-- A run that failed removes the outputs that were absent when it began. -/
theorem next_files_of_failed {err : ModuleError}
    (failed : r.stage = .ended e input fresh (.error err)) :
    (r.next h).2.files = removeOutputs h.files fresh := by
  simp only [next, failed]

/-- What a run that has looked keeps of it: its input and what was absent. -/
def Noted (stage : ToolStage) (e : Evidence) (input : String) (fresh : List String) : Prop :=
  stage = .looked e input fresh ∨ (∃ outcome, stage = .ended e input fresh outcome) ∨
    ∃ result, stage = .finished result

/-- What was absent when the run began stays noted. -/
theorem noted_next (noted : Noted r.stage e input fresh) :
    Noted (r.next h).1 e input fresh := by
  rcases noted with looked | ⟨outcome, ended⟩ | ⟨result, finished⟩
  · exact .inr (.inl ⟨(r.tool.execute (runArguments r.tool.kind input) h).1,
      by simp [next, looked]⟩)
  · right; right
    cases outcome <;> simp [next, ended]
  · exact .inr (.inr ⟨result, by simp only [next, finished]⟩)

/-- A run that is over stays so. -/
theorem finished_next (r : ToolRun) (h : Host) (finished : ∃ result, r.stage = .finished result) :
    ∃ result, (r.next h).1 = .finished result := by
  obtain ⟨result, finished⟩ := finished
  exact ⟨result, by simp only [next, finished]⟩

/-- A run that has begun was refused, is over at once, or has noted which outputs are absent. -/
theorem noted_next_waiting (waits : r.stage = .waiting) :
    (∃ result, (r.next h).1 = .finished result) ∨ ∃ e input,
      (r.next h).1 = .looked e input (freshOutputs h.files (r.tool.outputsOf r.job)) := by
  unfold next
  rw [waits]
  dsimp only
  cases given : r.job.evidence? with
  | none => exact .inl ⟨_, rfl⟩
  | some e =>
    dsimp only
    split
    · exact .inl ⟨_, rfl⟩
    · cases accepted : r.tool.evidencePath e with
      | error err => exact .inl ⟨_, rfl⟩
      | ok input =>
        exact .inr ⟨e, input, by rw [outputsOf_eq given accepted]⟩

end ToolRun

/-- A host and the runs of tool modules that are under way on it. -/
structure Workshop where
  host : Host
  runs : List ToolRun

/-- What happens next in a workshop. -/
inductive WorkshopTurn where
  /-- A run takes its next step; a tool that it starts behaves like this. -/
  | next (i : Nat) (launch : List String → FileTree → Except String (ExitStatus × FileTree))
  /-- The tool of a run changes files while it runs. -/
  | write (i : Nat) (change : FileTree → FileTree)

namespace Workshop

open ToolRun

variable {w : Workshop} {r : ToolRun} {i j : Nat} {turn : WorkshopTurn} {turns : List WorkshopTurn}
  {launch : List String → FileTree → Except String (ExitStatus × FileTree)} {path : String}

/-- The host with tools that behave in a certain way. -/
def hostFor (w : Workshop)
    (launch : List String → FileTree → Except String (ExitStatus × FileTree)) : Host :=
  { w.host with launch := launch }

/-- One turn. -/
def step (w : Workshop) : WorkshopTurn → Workshop
  | .next i launch =>
    match w.runs[i]? with
    | none => w
    | some r =>
      ⟨(r.advance (w.hostFor launch)).2, w.runs.set i (r.advance (w.hostFor launch)).1⟩
  | .write i change =>
    match w.runs[i]? with
    | some ⟨_, _, .looked ..⟩ => { w with host := { w.host with files := change w.host.files } }
    | _ => w

/-- Turn after turn. -/
def after (w : Workshop) (turns : List WorkshopTurn) : Workshop := turns.foldl step w

/-- No run has begun, and each is of a built-in module for the same directory. -/
structure Opened (tools : ToolsConfig) (directory : String) (w : Workshop) : Prop where
  waiting : ∀ r ∈ w.runs, r.stage = .waiting
  builtin : ∀ r ∈ w.runs, r.tool ∈ builtin tools directory

/-- A run has ended well, and its report has an artifact whose file has this path. -/
def Reported (w : Workshop) (i : Nat) (path : String) : Prop :=
  ∃ r artifacts, w.runs[i]? = some r ∧ r.stage = .finished (.ok artifacts) ∧
    ∃ artifact ∈ artifacts, r.tool.evidencePath artifact = .ok path

/-- The next step of a run starts a tool. -/
def StartsTool (w : Workshop) (i : Nat) : Prop := ∃ r, w.runs[i]? = some r ∧ r.StartsTool

/-- The tool of a run has failed, and the run has not cleaned up yet. -/
def ToolFailed (w : Workshop) (i : Nat) : Prop :=
  ∃ r e input fresh err, w.runs[i]? = some r ∧ r.stage = .ended e input fresh (.error err)

/-- The paths that a run may write. -/
def outputs (w : Workshop) (i : Nat) : List String :=
  (w.runs[i]?).elim [] fun r => r.tool.outputsOf r.job

/-- At one of the turns a run took its first step, and nothing stood at the path. -/
def Missed (w : Workshop) (turns : List WorkshopTurn) (i : Nat) (path : String) : Prop :=
  ∃ before launch rest r, turns = before ++ .next i launch :: rest ∧
    (w.after before).runs[i]? = some r ∧ r.stage = .waiting ∧
    (w.after before).host.files.Absent path

/-! ## One run among the others -/

/-- The run whose turn it is goes on. -/
theorem run_step_next (here : w.runs[i]? = some r)
    (launch : List String → FileTree → Except String (ExitStatus × FileTree)) :
    (w.step (.next i launch)).runs[i]? = some (r.advance (w.hostFor launch)).1 := by
  unfold step
  dsimp only
  rw [here]
  exact List.getElem?_set_self (List.getElem?_eq_some_iff.1 here).1

/-- The files are as that run leaves them. -/
theorem files_step_next (here : w.runs[i]? = some r)
    (launch : List String → FileTree → Except String (ExitStatus × FileTree)) :
    (w.step (.next i launch)).host.files = (r.next (w.hostFor launch)).2.files := by
  unfold step
  dsimp only
  rw [here]
  rfl

/-- A turn of nobody changes nothing. -/
theorem step_next_of_none (nobody : w.runs[i]? = none)
    (launch : List String → FileTree → Except String (ExitStatus × FileTree)) :
    w.step (.next i launch) = w := by
  unfold step
  dsimp only
  rw [nobody]

/-- A run takes a step of its own, or stays as it is. -/
theorem run_step (here : w.runs[i]? = some r) (turn : WorkshopTurn) :
    (w.step turn).runs[i]? = some r ∨ ∃ launch, turn = .next i launch := by
  cases turn with
  | next k launch =>
    by_cases own : k = i
    · exact .inr ⟨launch, own ▸ rfl⟩
    · left
      unfold step
      dsimp only
      split
      · exact here
      · rw [List.getElem?_set_ne own, here]
  | write k change =>
    left
    unfold step
    dsimp only
    split <;> exact here

/-- A run is of the same module and on the same job whatever happens. -/
theorem run_after (here : w.runs[i]? = some r) (turns : List WorkshopTurn) :
    ∃ stage, (w.after turns).runs[i]? = some { r with stage := stage } := by
  induction turns generalizing w r with
  | nil => exact ⟨r.stage, here⟩
  | cons turn turns ih =>
    rcases run_step here turn with same | ⟨launch, rfl⟩
    · exact ih same
    · obtain ⟨stage, kept⟩ := ih (run_step_next here launch)
      exact ⟨stage, kept⟩

/-- Two series of turns, one after the other, are one. -/
theorem after_append (w : Workshop) (turns turns' : List WorkshopTurn) :
    w.after (turns ++ turns') = (w.after turns).after turns' := List.foldl_append

/-- No run is added or lost. -/
theorem length_after (w : Workshop) (turns : List WorkshopTurn) :
    (w.after turns).runs.length = w.runs.length := by
  induction turns generalizing w with
  | nil => rfl
  | cons turn turns ih =>
    have one : (w.step turn).runs.length = w.runs.length := by
      unfold step
      split
      · split <;> simp
      · split <;> rfl
    exact (ih (w.step turn)).trans one

/-- What runs after some turns was there from the beginning, with the same module and job. -/
theorem exists_run (there : (w.after turns).runs[i]? = some r) :
    ∃ r₀ stage, w.runs[i]? = some r₀ ∧ r = { r₀ with stage := stage } := by
  have inside : i < w.runs.length :=
    length_after w turns ▸ (List.getElem?_eq_some_iff.1 there).1
  have here : w.runs[i]? = some w.runs[i] := List.getElem?_eq_getElem inside
  obtain ⟨stage, kept⟩ := run_after here turns
  exact ⟨_, stage, here, Option.some.inj (there.symm.trans kept)⟩

/-- A run that has not begun and then has begun has taken its first step. -/
theorem exists_first_step (here : w.runs[i]? = some r) (waits : r.stage = .waiting)
    {r' : ToolRun} (there : (w.after turns).runs[i]? = some r') (begun : r'.stage ≠ .waiting) :
    ∃ before launch rest, turns = before ++ .next i launch :: rest ∧
      (w.after before).runs[i]? = some r := by
  induction turns generalizing w with
  | nil =>
    obtain rfl : r = r' := Option.some.inj (here.symm.trans there)
    exact absurd waits begun
  | cons turn turns ih =>
    rcases run_step here turn with same | ⟨launch, rfl⟩
    · obtain ⟨before, launch, rest, rfl, waited⟩ := ih same there
      exact ⟨turn :: before, launch, rest, rfl, waited⟩
    · exact ⟨[], launch, turns, rfl, here⟩

/-- What a run's own steps keep true of its stage stays true of it. -/
theorem stage_after (P : ToolStage → Prop) (keeps : ∀ (r : ToolRun) h, P r.stage → P (r.next h).1)
    (here : w.runs[i]? = some r) (holds : P r.stage) {r' : ToolRun}
    (there : (w.after turns).runs[i]? = some r') : P r'.stage := by
  induction turns generalizing w r with
  | nil => exact Option.some.inj (here.symm.trans there) ▸ holds
  | cons turn turns ih =>
    rcases run_step here turn with same | ⟨launch, rfl⟩
    · exact ih same holds there
    · exact ih (run_step_next here launch) (keeps _ _ holds) there

/-- Whichever turn was a run's first step, what it noted is what was absent then. -/
theorem fresh_eq_of_first_step {e : Evidence} {input : String} {fresh : List String}
    {outcome : Except ModuleError Unit} {before rest : List WorkshopTurn}
    (waited : (w.after before).runs[i]? = some r) (waits : r.stage = .waiting) {r' : ToolRun}
    (there : (w.after (before ++ .next i launch :: rest)).runs[i]? = some r')
    (ended : r'.stage = .ended e input fresh outcome) :
    fresh = freshOutputs (w.after before).host.files (r.tool.outputsOf r.job) := by
  have stepped := run_step_next waited launch
  have in_two : w.after (before ++ .next i launch :: rest) =
      ((w.after before).step (.next i launch)).after rest := by
    rw [after_append]
    rfl
  rw [in_two] at there
  rcases noted_next_waiting (h := (w.after before).hostFor launch) waits with
    finished | ⟨e', input', looked⟩
  · obtain ⟨result, kept⟩ :=
      stage_after (∃ result, · = .finished result) finished_next stepped finished there
    rw [ended] at kept
    cases kept
  · have kept :=
      stage_after (Noted · e' input' _) (fun _ _ => noted_next) stepped (.inl looked) there
    rw [Noted, ended] at kept
    obtain ⟨rfl, rfl, rfl, -⟩ : e = e' ∧ input = input' ∧ fresh = _ ∧ True := by
      simpa using kept
    rfl

/-- **What is noted of a run is what it saw** when it took its first step. -/
theorem mem_fresh_iff {e : Evidence} {input : String} {fresh : List String}
    {outcome : Except ModuleError Unit} (here : w.runs[i]? = some r) (waits : r.stage = .waiting)
    {r' : ToolRun} (there : (w.after turns).runs[i]? = some r')
    (ended : r'.stage = .ended e input fresh outcome) (path : String) :
    path ∈ fresh ↔ path ∈ w.outputs i ∧ w.Missed turns i path := by
  have own : w.outputs i = r.tool.outputsOf r.job := by
    rw [Workshop.outputs, here]
    rfl
  have mem_iff (t : FileTree) :
      path ∈ freshOutputs t (r.tool.outputsOf r.job) ↔ path ∈ w.outputs i ∧ t.Absent path := by
    rw [own, freshOutputs, List.mem_filter, beq_iff_eq]
    rfl
  constructor
  · intro fresh_path
    have begun : r'.stage ≠ .waiting := by
      rw [ended]
      nofun
    obtain ⟨before, launch, rest, rfl, waited⟩ := exists_first_step here waits there begun
    rw [fresh_eq_of_first_step waited waits there ended, mem_iff] at fresh_path
    exact ⟨fresh_path.1, before, launch, rest, r, rfl, waited, waits, fresh_path.2⟩
  · rintro ⟨output, before, launch, rest, r₁, rfl, waited, waits₁, absent⟩
    obtain ⟨stage, same⟩ := run_after here before
    obtain rfl := Option.some.inj (same.symm.trans waited)
    rw [fresh_eq_of_first_step waited waits₁ there ended, mem_iff]
    exact ⟨output, absent⟩

/-- A run of a built-in module writes into the directory of a case, under a name of its own. -/
theorem output_eq_joinPath {tools : ToolsConfig} {directory : String} {m : ToolModule}
    {job : JobDescriptor} (known : m ∈ builtin tools directory) (written : path ∈ m.outputsOf job) :
    ∃ inner name, isPlainFileName inner = true ∧ isPlainFileName name = true ∧
      path = joinPath (joinPath directory inner) name := by
  obtain ⟨e, input, given, accepted⟩ := exists_input written
  rw [outputsOf_eq given accepted, mem_outputPaths] at written
  obtain ⟨suffix, writes, rfl⟩ := written
  obtain ⟨plain_case, plain_name, rfl⟩ := evidencePath_eq_ok_iff.1 accepted
  rw [directory_of_builtin known, joinPath_append]
  exact ⟨_, _, plain_case,
    isPlainFileName_append plain_name (slash_not_mem_suffix known writes), rfl⟩

/-- **What a clean-up takes away.** A file of an item below the same directory is removed if and
only if its path is among those that were noted. -/
theorem present_cleanUp_iff {tools : ToolsConfig} {directory : String} {m m' : ToolModule}
    {job : JobDescriptor} {artifact : Evidence} {t : FileTree} {content : String}
    {fresh : List String} (known : m ∈ builtin tools directory)
    (known' : m' ∈ builtin tools directory) (own : ∀ q ∈ fresh, q ∈ m.outputsOf job)
    (accepted : m'.evidencePath artifact = .ok path)
    (file : t.lookup path = .ok (.file content)) :
    (removeOutputs t fresh).Present path ↔ path ∉ fresh := by
  obtain ⟨plain_case, plain_name, written⟩ := evidencePath_eq_ok_iff.1 accepted
  rw [directory_of_builtin known'] at written
  obtain ⟨p, led, -, -⟩ := FileTree.lookup_eq_ok_iff.1 file
  rw [removeOutputs, FileTree.present_removeAll_iff file]
  constructor
  · intro other member
    exact other path member rfl
  · intro fresh_not q member same
    obtain ⟨inner, name, plain_inner, plain, rfl⟩ := output_eq_joinPath known (own q member)
    rw [led] at same
    obtain ⟨rfl, rfl⟩ :=
      names_eq_of_place_eq plain_inner plain plain_case plain_name same (written ▸ led)
    exact fresh_not (written ▸ member)

/-- **A reported file is lost** to a step that starts no tool if and only if the tool of that run
has failed, the file is among the run's own outputs, and it was not there when the run looked. It
does not matter that another run has reported it since. -/
theorem report_lost_iff {tools : ToolsConfig} {directory content : String}
    (opened : w.Opened tools directory) (reported : (w.after turns).Reported j path)
    (there : (w.after turns).host.files.lookup path = .ok (.file content))
    (idle : ¬(w.after turns).StartsTool i) :
    ¬((w.after turns).step (.next i launch)).host.files.Present path ↔
      (w.after turns).ToolFailed i ∧ path ∈ w.outputs i ∧ w.Missed turns i path := by
  have present : (w.after turns).host.files.Present path := FileTree.present_iff.2 ⟨_, there⟩
  obtain ⟨reporter, -, at_j, -, artifact, -, accepted⟩ := reported
  obtain ⟨reporter, _, from_j, rfl⟩ := exists_run at_j
  cases here : (w.after turns).runs[i]? with
  | none =>
    rw [step_next_of_none here]
    refine iff_of_false (not_not_intro present) ?_
    rintro ⟨⟨r, -, -, -, -, found, -⟩, -⟩
    cases here.symm.trans found
  | some r =>
    obtain ⟨r₀, stage, from_i, rfl⟩ := exists_run here
    rw [files_step_next here]
    have calm : ¬({ r₀ with stage := stage } : ToolRun).StartsTool :=
      fun starts => idle ⟨_, here, starts⟩
    by_cases failed : ∃ e input fresh err, stage = .ended e input fresh (.error err)
    · obtain ⟨e, input, fresh, err, rfl⟩ := failed
      have begun := opened.waiting r₀ (List.mem_of_getElem? from_i)
      have noted := mem_fresh_iff from_i begun here rfl
      have own : ∀ q ∈ fresh, q ∈ r₀.tool.outputsOf r₀.job := by
        intro q member
        have output := ((noted q).1 member).1
        rwa [outputs, from_i] at output
      have cleaned := present_cleanUp_iff (opened.builtin r₀ (List.mem_of_getElem? from_i))
        (opened.builtin reporter (List.mem_of_getElem? from_j)) own accepted there
      have has_failed : (w.after turns).ToolFailed i := ⟨_, e, input, fresh, err, here, rfl⟩
      rw [next_files_of_failed rfl]
      refine (not_congr cleaned).trans ?_
      rw [Classical.not_not, noted path, and_iff_right has_failed]
    · rw [(next_files calm).resolve_right failed]
      refine iff_of_false (not_not_intro present) ?_
      rintro ⟨⟨r, e, input, fresh, err, found, ended⟩, -⟩
      obtain rfl := Option.some.inj (here.symm.trans found)
      exact failed ⟨e, input, fresh, err, ended⟩

/-! ## Two modules for the same archive -/

/-- The built-in module for what Linux left. -/
def plasoLinux : ToolModule :=
  ⟨"Plaso (Linux Preset)", plasoText, .plaso "linux" ".plaso", plasoOnly.plaso?, none, "/e"⟩

/-- The archive as a job of that module. -/
def archiveJobLinux : JobDescriptor :=
  { archiveJob with id := "job2", name := "Plaso (Linux Preset)" }

/-- Both modules are to run on the archive. -/
def twoPresets : Workshop :=
  ⟨hostWriting archived [] (.code 0), [⟨plasoWindows, archiveJob, .waiting⟩,
    ⟨plasoLinux, archiveJobLinux, .waiting⟩]⟩

/-- A tool that writes both outputs. -/
def writesBoth (command : List String) (t : FileTree) : Except String (ExitStatus × FileTree) :=
  (hostWriting t [("/e/C1/triage.zip.plaso", "storage"), ("/e/C1/triage.zip.plaso.csv", "table")]
    (.code 0)).launch command t

/-- A tool that fails at once. -/
def failsAtOnce (_ : List String) (t : FileTree) : Except String (ExitStatus × FileTree) :=
  .ok (.code 1, t)

/-- Both runs of the workshop are of modules of the catalog. -/
theorem twoPresets_opened : twoPresets.Opened plasoOnly "/e" :=
  ⟨by simp [twoPresets], by simp [twoPresets, builtin, plasoWindows, plasoLinux]⟩

/-- A run whose tool is over starts none. -/
theorem not_startsTool_of_ended {e : Evidence} {input : String} {fresh : List String}
    {outcome : Except ModuleError Unit} (here : w.runs[i]? = some r)
    (ended : r.stage = .ended e input fresh outcome) : ¬w.StartsTool i := by
  rintro ⟨r', here', starts⟩
  obtain rfl := Option.some.inj (here.symm.trans here')
  rw [ToolRun.StartsTool, ended] at starts
  rcases starts with ⟨_, _, _, looked⟩ | ⟨waits, -⟩
  · cases looked
  · cases waits

/-- Both look, the first one writes and reports, and the tool of the second one fails. -/
def lookedBefore : List WorkshopTurn :=
  [.next 0 writesBoth, .next 1 failsAtOnce, .next 0 writesBoth, .next 0 writesBoth,
    .next 1 failsAtOnce]

/-- The second one looks when the first one has reported, and its tool fails. -/
def lookedAfter : List WorkshopTurn :=
  [.next 0 writesBoth, .next 0 writesBoth, .next 0 writesBoth, .next 1 failsAtOnce,
    .next 1 failsAtOnce]

/-- **What one run reported, the other one destroys,** if it had looked before that was there. -/
theorem report_destroyed : twoPresets.Opened plasoOnly "/e" ∧
    (twoPresets.after lookedBefore).Reported 0 "/e/C1/triage.zip.plaso" ∧
    (twoPresets.after lookedBefore).host.files.lookup "/e/C1/triage.zip.plaso" =
      .ok (.file "storage") ∧
    ¬(twoPresets.after lookedBefore).StartsTool 1 ∧
    ¬((twoPresets.after lookedBefore).step (.next 1 failsAtOnce)).host.files.Present
      "/e/C1/triage.zip.plaso" :=
  ⟨twoPresets_opened, ⟨_, _, rfl, rfl, _, .head _, rfl⟩, rfl, not_startsTool_of_ended rfl rfl,
    by decide +kernel⟩

/-- A run that looked when the report was made finds the file, and leaves it. -/
theorem report_lost_iff_looked_after : twoPresets.Opened plasoOnly "/e" ∧
    (twoPresets.after lookedAfter).Reported 0 "/e/C1/triage.zip.plaso" ∧
    (twoPresets.after lookedAfter).host.files.lookup "/e/C1/triage.zip.plaso" =
      .ok (.file "storage") ∧
    ¬(twoPresets.after lookedAfter).StartsTool 1 ∧ (twoPresets.after lookedAfter).ToolFailed 1 ∧
    "/e/C1/triage.zip.plaso" ∈ twoPresets.outputs 1 ∧
    ¬twoPresets.Missed lookedAfter 1 "/e/C1/triage.zip.plaso" := by
  have reported : (twoPresets.after lookedAfter).Reported 0 "/e/C1/triage.zip.plaso" :=
    ⟨_, _, rfl, rfl, _, .head _, rfl⟩
  have there : (twoPresets.after lookedAfter).host.files.lookup "/e/C1/triage.zip.plaso" =
      .ok (.file "storage") := rfl
  have idle : ¬(twoPresets.after lookedAfter).StartsTool 1 := not_startsTool_of_ended rfl rfl
  have failed : (twoPresets.after lookedAfter).ToolFailed 1 := ⟨_, _, _, _, _, rfl, rfl⟩
  have output : "/e/C1/triage.zip.plaso" ∈ twoPresets.outputs 1 := by decide +kernel
  have kept : ((twoPresets.after lookedAfter).step (.next 1 failsAtOnce)).host.files.Present
      "/e/C1/triage.zip.plaso" := by decide +kernel
  exact ⟨twoPresets_opened, reported, there, idle, failed, output, fun missed =>
    (report_lost_iff twoPresets_opened reported there idle).2 ⟨failed, output, missed⟩ kept⟩

end Workshop
end Casework
