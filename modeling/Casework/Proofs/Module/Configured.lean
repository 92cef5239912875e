/-
# Only tools that are set up run

A built-in module runs the command of one section of the configuration, and the upload has its
target from the same section as its command.  Where the section is missing, nothing is left that
could start a process.

| section of the tool | command | check | run |
| --- | --- | --- | --- |
| missing | none | not configured | fails, and leaves the host as it is |
| there | begins with a word that is not blank | never "not configured" | never "not configured" |

The table is `only_configured_tools_run`, over every text that is accepted; what is not accepted is
said in `Casework.Proofs.Config.Tools`.
-/

import Casework.Proofs.Config.Tools
import Casework.Proofs.Module.Confinement

namespace Casework
namespace ToolModule

open ToolsConfig FileTree

variable {m : ToolModule} {job : JobDescriptor} {e : Evidence} {h : Host} {tools : ToolsConfig}
  {directory text name : String} {arguments own : List String}

/-- **A built-in module** has the command of its section, and the upload has its target with it. -/
theorem command?_of_builtin (known : m ∈ builtin tools directory) :
    m.command? = tools.command? m.kind ∧
      (m.kind = .timesketch → m.timesketch?.isSome = m.command?.isSome) := by
  simp only [builtin, List.mem_cons, List.not_mem_nil, or_false] at known
  rcases known with rfl | rfl | rfl | rfl | rfl | rfl <;> simp [ToolsConfig.command?]

/-! ## A tool without a command -/

/-- Without a command nothing is started. -/
theorem execute_of_unconfigured (missing : m.command? = none) (arguments : List String) (h : Host) :
    m.execute arguments h = (.error (.notConfigured m.name), h) := by
  rw [execute, missing]

/-- Without a command the check fails, and says so. -/
theorem check_of_unconfigured (missing : m.command? = none) (h : Host) :
    m.check h = (.error (.notConfigured m.name), h) := by
  rw [check, execute_of_unconfigured missing, ite_self]

/-- Removing the outputs that were absent changes nothing as long as nothing was started. -/
theorem removeOutputs_freshOutputs (files : FileTree) (paths : List String) :
    removeOutputs files (freshOutputs files paths) = files :=
  removeAll_of_absent fun _ among => eq_of_beq (List.mem_filter.1 among).2

/-- **Without a command a run fails,** for a cause that does not depend on the host, and leaves the
host as it is. -/
theorem run_of_unconfigured (missing : m.command? = none)
    (target : m.kind = .timesketch → m.timesketch? = none) (job : JobDescriptor) :
    ∃ err, ∀ h, m.run job h = (.error err, h) := by
  cases given : job.evidence? with
  | none => exact ⟨.missingEvidence, fun h => by rw [run, given]⟩
  | some e =>
    by_cases uploads : m.kind = .timesketch
    · refine ⟨.notConfigured m.name, fun h => ?_⟩
      simp only [run, given, uploads, runUpload, target uploads]
    · cases accepted : m.evidencePath e with
      | error err =>
        refine ⟨err, fun h => ?_⟩
        rw [run_of_writes uploads given, runWriting, accepted]
      | ok input =>
        refine ⟨.notConfigured m.name, fun h => ?_⟩
        rw [run_of_writes uploads given, runWriting, accepted]
        dsimp only
        rw [execute_of_unconfigured missing]
        dsimp only
        rw [removeOutputs_freshOutputs]

/-! ## A tool with a command -/

/-- The end of a tool is not reported as a missing command. -/
theorem ne_notConfigured_of_outcome {status : ExitStatus} {err : ModuleError}
    (ended : outcome status = .error err) (name : String) : err ≠ .notConfigured name := by
  unfold outcome at ended
  split at ended <;> cases ended <;> exact nofun

/-- What a configured tool fails with is not a missing command. -/
theorem ne_notConfigured_of_execute {err : ModuleError} (configured : m.command? = some own)
    (some_program : own ≠ []) (ended : (m.execute arguments h).1 = .error err) (name : String) :
    err ≠ .notConfigured name := by
  unfold execute at ended
  split at ended
  · next missing => cases missing.symm.trans configured
  · next empty => exact absurd (Option.some.inj (configured.symm.trans empty)) some_program
  · split at ended
    · next cause h' stopped =>
      -- a host that does not start a command says why it does not
      obtain rfl := Except.error.inj ended
      unfold Host.execute at stopped
      split at stopped
      · cases stopped
        exact nofun
      · split at stopped <;> cases stopped
        exact nofun
    · exact ne_notConfigured_of_outcome ended name

/-- An output that cannot be described is not reported as a missing command. -/
theorem ne_notConfigured_of_describeOutput {kind : ToolKind} {path suffix : String}
    {err : ModuleError} (ended : (describeOutput kind e path suffix h).1 = .error err)
    (name : String) : err ≠ .notConfigured name := by
  unfold describeOutput at ended
  split at ended <;> cases ended
  exact nofun

/-- Outputs that cannot be described are not reported as a missing command. -/
theorem ne_notConfigured_of_describeOutputs {kind : ToolKind} {input : String}
    {suffixes : List String} {err : ModuleError}
    (ended : (describeOutputs kind e input suffixes h).1 = .error err) (name : String) :
    err ≠ .notConfigured name := by
  induction suffixes generalizing h with
  | nil => cases ended
  | cons suffix suffixes ih =>
    rw [describeOutputs] at ended
    split at ended
    · next cause h' missing =>
      obtain rfl := Except.error.inj ended
      exact ne_notConfigured_of_describeOutput (congrArg Prod.fst missing) name
    · next h' described =>
      split at ended
      · next cause h'' stopped =>
        obtain rfl := Except.error.inj ended
        exact ih (congrArg Prod.fst stopped)
      · cases ended

/-- An item that the tool does not take is not reported as a missing command. -/
theorem ne_notConfigured_of_evidencePath {err : ModuleError}
    (refused : m.evidencePath e = .error err) (name : String) : err ≠ .notConfigured name := by
  unfold evidencePath at refused
  split at refused <;> cases refused
  exact nofun

/-- **A configured tool** that writes outputs is not reported as missing. -/
theorem ne_notConfigured_of_runWriting {err : ModuleError} (configured : m.command? = some own)
    (some_program : own ≠ []) (ended : (m.runWriting e h).1 = .error err) (name : String) :
    err ≠ .notConfigured name := by
  unfold runWriting at ended
  split at ended
  · next cause refused =>
    obtain rfl := Except.error.inj ended
    exact ne_notConfigured_of_evidencePath refused name
  · dsimp only at ended
    split at ended
    · next cause h' stopped =>
      obtain rfl := Except.error.inj ended
      exact ne_notConfigured_of_execute configured some_program (congrArg Prod.fst stopped) name
    · exact ne_notConfigured_of_describeOutputs ended name

/-- **A configured tool** that uploads is not reported as missing. -/
theorem ne_notConfigured_of_runUpload {err : ModuleError} (configured : m.command? = some own)
    (some_program : own ≠ []) (target : m.timesketch? ≠ none)
    (ended : (m.runUpload job e h).1 = .error err) (name : String) : err ≠ .notConfigured name := by
  unfold runUpload at ended
  split at ended
  · next missing => exact absurd missing target
  · cases ended
    exact nofun
  · split at ended
    · cases ended
      exact nofun
    · split at ended
      · next cause refused =>
        obtain rfl := Except.error.inj ended
        exact ne_notConfigured_of_evidencePath refused name
      · split at ended
        · next cause h' stopped =>
          obtain rfl := Except.error.inj ended
          exact ne_notConfigured_of_execute configured some_program (congrArg Prod.fst stopped) name
        · cases ended

/-- **With a command a run never says** that its tool is not configured. -/
theorem run_ne_notConfigured (configured : m.command? = some own) (some_program : own ≠ [])
    (target : m.kind = .timesketch → m.timesketch? ≠ none) (job : JobDescriptor) (h : Host)
    (name : String) : (m.run job h).1 ≠ .error (.notConfigured name) := by
  intro ended
  cases given : job.evidence? with
  | none =>
    rw [run, given] at ended
    cases ended
  | some e =>
    by_cases uploads : m.kind = .timesketch
    · simp only [run, given, uploads] at ended
      exact ne_notConfigured_of_runUpload configured some_program (target uploads) ended name rfl
    · rw [run_of_writes uploads given] at ended
      exact ne_notConfigured_of_runWriting configured some_program ended name rfl

/-- The check of a configured tool does not say that it is missing. -/
theorem check_ne_notConfigured (configured : m.command? = some own) (some_program : own ≠ [])
    (target : m.kind = .timesketch → m.timesketch? ≠ none) (h : Host) (name : String) :
    (m.check h).1 ≠ .error (.notConfigured name) := by
  intro ended
  unfold check at ended
  split at ended
  · next missing => exact target missing.1 (Option.isNone_iff_eq_none.1 missing.2)
  · exact ne_notConfigured_of_execute configured some_program ended name rfl

/-! ## What is started -/

/-- What was started between two states of a host: nothing, or one command, that of the module with
arguments behind it. -/
def StartsOwn (m : ToolModule) (h h' : Host) : Prop :=
  h'.started = h.started ∨ ∃ own arguments, m.command? = some own ∧
    h'.started = h.started ++ [own ++ arguments]

/-- To run a tool starts its own command, or nothing. -/
theorem startsOwn_of_executes {h' : Host} {result : Except ModuleError Unit}
    (executed : Executes m arguments h result h') : m.StartsOwn h h' := by
  cases executed with
  | idle err => exact .inl rfl
  | ran configured some_program sendable launched => exact .inr ⟨_, arguments, configured, rfl⟩

/-- To check a tool starts its own command, or nothing. -/
theorem startsOwn_check (m : ToolModule) (h : Host) : m.StartsOwn h (m.check h).2 := by
  unfold check
  split
  · exact .inl rfl
  · exact startsOwn_of_executes (executes m _ h)

/-- **A run of the module** starts its own command, or nothing. -/
theorem startsOwn_run (m : ToolModule) (job : JobDescriptor) (h : Host) :
    m.StartsOwn h (m.run job h).2 := by
  obtain ⟨arguments, result, h', -, executed, same, -⟩ := deletes_run m job h
  have own := startsOwn_of_executes executed
  rwa [StartsOwn, ← same] at own

/-! ## Built-in modules -/

/-- A built-in module without its section has neither a command nor a target. -/
theorem unconfigured_of_builtin (accepted : parse text = .ok tools)
    (known : m ∈ builtin tools directory) (missing : ¬SetsUp text m.kind) :
    m.command? = none ∧ (m.kind = .timesketch → m.timesketch? = none) := by
  obtain ⟨own, target⟩ := command?_of_builtin known
  have nothing : m.command? = none := by
    rw [own, Option.eq_none_iff_forall_ne_some]
    exact fun command there => missing ((command?_of_parse accepted m.kind).1.2 ⟨command, there⟩)
  refine ⟨nothing, fun uploads => ?_⟩
  rw [← Option.isNone_iff_eq_none, ← Option.not_isSome, target uploads, nothing]
  rfl

/-- A built-in module with its section has a command that can be started, and a target. -/
theorem configured_of_builtin (accepted : parse text = .ok tools)
    (known : m ∈ builtin tools directory) (there : SetsUp text m.kind) :
    (∃ own, m.command? = some own ∧ Startable own) ∧
      (m.kind = .timesketch → m.timesketch? ≠ none) := by
  obtain ⟨own, target⟩ := command?_of_builtin known
  obtain ⟨section_command, startable⟩ := command?_of_parse accepted m.kind
  obtain ⟨command, found⟩ := section_command.1 there
  refine ⟨⟨command, own.trans found, startable command found⟩, fun uploads => ?_⟩
  rw [← Option.isSome_iff_ne_none, target uploads, own, found]
  rfl

/-- **Only tools that are set up run,** and none that is set up is said not to be. In a text that is
accepted, a built-in module has a command with a first word that is not blank if and only if the
text has the section of its tool; its check says that it is not configured if and only if the text
has not; with the section no run says so, and without it every run fails and leaves the host as it
is. What a check or a run starts is that command, with arguments behind it. A text is refused if a
section has a command that is empty or begins with a blank word, or if it has an entry that is no
section. -/
theorem only_configured_tools_run (text : String) :
    (∀ tools, parse text = .ok tools → ∀ directory, ∀ m ∈ builtin tools directory,
      ((∃ command, m.command? = some command ∧ Startable command) ↔ SetsUp text m.kind) ∧
      (∀ h, (∃ name, (m.check h).1 = .error (.notConfigured name)) ↔ ¬SetsUp text m.kind) ∧
      (SetsUp text m.kind → ∀ job h name, (m.run job h).1 ≠ .error (.notConfigured name)) ∧
      (¬SetsUp text m.kind → ∀ job, ∃ err, ∀ h, m.run job h = (.error err, h)) ∧
      ∀ job h, m.StartsOwn h (m.check h).2 ∧ m.StartsOwn h (m.run job h).2) ∧
    (∀ (kind : ToolKind) node words, HasEntry text kind.sectionName node →
      words? node = some words → beginsBlank words = true →
      ∃ cause, parse text = .error (.config cause)) ∧
    ∀ name node, HasEntry text name node → name ∉ sectionNames →
      ∃ cause, parse text = .error (.config cause) := by
  refine ⟨fun tools accepted directory m known => ?_,
    fun _ _ _ there given blank => refused_of_blank there given blank,
    fun _ _ there unknown => refused_of_unknown there unknown⟩
  have with_section := configured_of_builtin accepted known
  have without := unconfigured_of_builtin accepted known
  refine ⟨⟨fun ⟨command, found, _⟩ => ?_, fun there => (with_section there).1⟩,
    fun h => ⟨fun ⟨name, blames⟩ there => ?_, fun missing => ?_⟩, fun there job h name => ?_,
    fun missing job => run_of_unconfigured (without missing).1 (without missing).2 job,
    fun job h => ⟨startsOwn_check m h, startsOwn_run m job h⟩⟩
  · refine Classical.byContradiction fun missing => ?_
    rw [(without missing).1] at found
    cases found
  · obtain ⟨⟨own, found, program, more, rfl, -⟩, target⟩ := with_section there
    exact check_ne_notConfigured found (List.cons_ne_nil program more) target h name blames
  · exact ⟨m.name, by rw [check_of_unconfigured (without missing).1]⟩
  · obtain ⟨⟨own, found, program, more, rfl, -⟩, target⟩ := with_section there
    exact run_ne_notConfigured found (List.cons_ne_nil program more) target job h name

/-- A text with one section. -/
def plasoSetup : String := "[plaso]\ncommand = [\"psteal.py\"]\n"

/-- The text is read as the one tool. -/
theorem parse_plasoSetup : parse plasoSetup = .ok plasoOnly := by decide +kernel

/-- The built-in module for event logs has no section there. -/
def unconfigured : ToolModule :=
  ⟨"Hayabusa", hayabusaText, .hayabusa, plasoOnly.hayabusa?, none, "/e"⟩

/-- The module that has its section is not said to have none, and the one that has none leaves the
host as it is. A tool that is not known, and a command of a blank, are refused. -/
theorem only_configured_tools_run_plaso : parse plasoSetup = .ok plasoOnly ∧
    plasoWindows ∈ builtin plasoOnly "/e" ∧ unconfigured ∈ builtin plasoOnly "/e" ∧
    SetsUp plasoSetup plasoWindows.kind ∧ ¬SetsUp plasoSetup unconfigured.kind ∧
    (plasoWindows.run archiveJob halfWay).1 ≠ .error (.notConfigured plasoWindows.name) ∧
    (∃ err, unconfigured.run archiveJob halfWay = (.error err, halfWay)) ∧
    (∃ cause, parse "[nmap]\n" = .error (.config cause)) ∧
    ∃ cause, parse "[plaso]\ncommand = [\" \"]\n" = .error (.config cause) := by
  have known : plasoWindows ∈ builtin plasoOnly "/e" := by simp [builtin, plasoWindows]
  have known' : unconfigured ∈ builtin plasoOnly "/e" := by simp [builtin, unconfigured]
  have there : SetsUp plasoSetup plasoWindows.kind :=
    (command?_of_parse parse_plasoSetup plasoWindows.kind).1.2 ⟨_, rfl⟩
  have missing : ¬SetsUp plasoSetup unconfigured.kind := fun there => by
    obtain ⟨command, found⟩ := (command?_of_parse parse_plasoSetup .hayabusa).1.1 there
    cases found
  have all := (only_configured_tools_run plasoSetup).1 plasoOnly parse_plasoSetup "/e"
  obtain ⟨-, -, never, -⟩ := all plasoWindows known
  obtain ⟨-, -, -, fails, -⟩ := all unconfigured known'
  obtain ⟨err, fails⟩ := fails missing archiveJob
  have nmap : ((Toml.parse? "[nmap]\n").bind (Toml.Entries.find? · "nmap")).isSome := by
    decide +kernel
  have blank : (((Toml.parse? "[plaso]\ncommand = [\" \"]\n").bind
      (Toml.Entries.find? · "plaso")).bind words?).any beginsBlank := by decide +kernel
  refine ⟨parse_plasoSetup, known, known', there, missing, never there archiveJob halfWay _,
    ⟨err, fails halfWay⟩, ?_, ?_⟩
  · obtain ⟨node, found⟩ := Option.isSome_iff_exists.1 nmap
    exact (only_configured_tools_run _).2.2 "nmap" node (Option.bind_eq_some_iff.1 found)
      (by decide)
  · obtain ⟨words, given, blank⟩ := (Option.any_eq_true ..).1 blank
    obtain ⟨node, found, given⟩ := Option.bind_eq_some_iff.1 given
    exact (only_configured_tools_run _).2.1 (.plaso "win7" ".plaso") node words
      (Option.bind_eq_some_iff.1 found) given blank

end ToolModule
end Casework
