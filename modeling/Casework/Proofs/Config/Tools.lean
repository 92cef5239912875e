/-
# Sections of a tools configuration

A text that is accepted is a document whose sections can be read and that has no other entry at its
top level, and the commands of its sections have a first word that is not blank
(`reads_of_parse`).

| entry of the text | outcome |
| --- | --- |
| is no section | refused (`refused_of_unknown`) |
| is a section whose command is empty or begins with a blank word | refused (`refused_of_blank`) |
| is a section, and the text is accepted | its tool has that command (`command?_of_parse`) |

A tool whose section is missing has no command, and every refusal is an error of the configuration
(`exists_cause_of_not_accepted`).
-/

import Casework.Config.Tools
import Casework.Module.Tool
import Casework.Proofs.Text.Pieces

namespace Casework

open Text Toml

/-- The section in which a tool is set up. -/
def ToolKind.sectionName : ToolKind → String
  | .hayabusa => "hayabusa"
  | .plaso _ _ => "plaso"
  | .timesketch => "timesketch"

namespace ToolsConfig

variable {text name : String} {tools : ToolsConfig} {kind : ToolKind} {node : Node}
  {words : List Node} {es : Entries} {command : List String}

/-- The names of the sections. -/
def sectionNames : List String := ["hayabusa", "plaso", "timesketch"]

/-- A text has an entry of a name at its top level. -/
def HasEntry (text name : String) (node : Node) : Prop :=
  ∃ es, Toml.parse? text = some es ∧ Entries.find? es name = some node

/-- A text sets a tool up: it has the tool's section. -/
def SetsUp (text : String) (kind : ToolKind) : Prop := ∃ node, HasEntry text kind.sectionName node

/-- The words that a section gives as its command: under its name, or as the first of its values.
-/
def words? : Node → Option (List Node)
  | .table _ es =>
    match Entries.find? es "command" with
    | some (.array words) => some words
    | _ => none
  | .array (.array words :: _) => some words
  | _ => none

/-- There is no first word, or it is blank. -/
def beginsBlank : List Node → Bool
  | [] => true
  | .text word :: _ => word.toList.all isBlank
  | _ => false

/-- A command with a first word that is not blank. -/
def Startable (command : List String) : Prop :=
  ∃ program more, command = program :: more ∧ ∃ c ∈ program.toList, isBlank c = false

/-- The command that a configuration has for a tool. -/
def command? (tools : ToolsConfig) : ToolKind → Option (List String)
  | .hayabusa => tools.hayabusa?
  | .plaso _ _ => tools.plaso?
  | .timesketch => tools.timesketch?.map (·.command)

/-! ## Reading a section -/

/-- An entry that is found is there. -/
theorem mem_of_find? (found : Entries.find? es name = some node) : (name, node) ∈ es := by
  obtain ⟨entry, first, rfl⟩ := Option.map_eq_some_iff.1 found
  have named := List.find?_some first
  obtain rfl := eq_of_beq named
  exact List.mem_of_find?_eq_some first

/-- A command is not blank if there is a program to start. -/
theorem isBlankCommand_eq_false_iff : isBlankCommand command = false ↔ Startable command := by
  cases command with
  | nil => simp [isBlankCommand, Startable]
  | cons program more =>
    rw [isBlankCommand, List.isEmpty_eq_false_iff, Ne, trimChars_eq_nil_iff]
    simp [Startable]

/-- A section that can be read is configured if it stands in the text. -/
theorem isSome_section?_iff {α : Type} {read : Node → Option α} {n? : Option Node} {o : Option α}
    (there : section? read n? = some o) : o.isSome ↔ n?.isSome := by
  unfold section? at there
  split at there
  · cases there
    rfl
  · obtain ⟨a, -, rfl⟩ := Option.map_eq_some_iff.1 there
    rfl

/-- A section that is there is read. -/
theorem exists_of_section? {α : Type} {read : Node → Option α} {n? : Option Node} {o : Option α}
    (there : section? read n? = some o) (found : n? = some node) :
    ∃ a, read node = some a ∧ o = some a := by
  subst found
  obtain ⟨a, reads, rfl⟩ := Option.map_eq_some_iff.1 there
  exact ⟨a, reads, rfl⟩

/-- The first value that is read from a section is its command. -/
theorem valuesOf?_of_words {keys : List String} {values : List Node}
    (given : words? node = some words) (read : valuesOf? ("command" :: keys) node = some values) :
    ∃ more, values = .array words :: more := by
  unfold words? at given
  split at given
  · split at given
    · next found =>
      obtain rfl := Option.some.inj given
      simp only [valuesOf?, List.mapM_cons, found, Option.bind_eq_bind, Option.bind_some,
        Option.bind_eq_some_iff, Option.pure_def, Option.some.injEq] at read
      obtain ⟨more, -, rfl⟩ := read
      exact ⟨more, rfl⟩
    · cases given
  · obtain rfl := Option.some.inj given
    simp only [valuesOf?] at read
    split at read
    · obtain rfl := Option.some.inj read
      exact ⟨_, rfl⟩
    · cases read
  · cases given

/-- Words that are read as a command do not begin with a blank one, if the command does not. -/
theorem beginsBlank_of_startable (read : words.mapM textOf? = some command)
    (startable : Startable command) : beginsBlank words = false := by
  obtain ⟨program, more, rfl, c, among, solid⟩ := startable
  rw [← Bool.not_eq_true]
  intro blank
  unfold beginsBlank at blank
  split at blank
  · cases read
  · simp only [List.mapM_cons, textOf?, Option.bind_eq_bind, Option.bind_some,
      Option.bind_eq_some_iff, Option.pure_def, Option.some.injEq, List.cons.injEq] at read
    obtain ⟨-, -, rfl, -⟩ := read
    rw [List.all_eq_true.1 blank c among] at solid
    cases solid
  · cases blank

/-- The command is made of the words that are given. -/
theorem words_of_commandOf? (given : words? node = some words)
    (read : commandOf? node = some command) : words.mapM textOf? = some command := by
  obtain ⟨values, there, read⟩ := Option.bind_eq_some_iff.1 read
  obtain ⟨more, rfl⟩ := valuesOf?_of_words given there
  split at read
  · next own same =>
    obtain ⟨rfl, -⟩ := List.cons.inj same
    exact read
  · cases read

/-- The command of a target is made of the words that are given. -/
theorem words_of_timesketchOf? {target : TimesketchConfig} (given : words? node = some words)
    (read : timesketchOf? node = some target) : words.mapM textOf? = some target.command := by
  obtain ⟨values, there, read⟩ := Option.bind_eq_some_iff.1 read
  obtain ⟨more, rfl⟩ := valuesOf?_of_words given there
  split at read
  · next own url user password same =>
    obtain ⟨rfl, -⟩ := List.cons.inj same
    obtain ⟨command, own_read, read⟩ := Option.bind_eq_some_iff.1 read
    obtain ⟨_, -, read⟩ := Option.bind_eq_some_iff.1 read
    obtain ⟨_, -, read⟩ := Option.bind_eq_some_iff.1 read
    obtain ⟨_, -, read⟩ := Option.bind_eq_some_iff.1 read
    obtain rfl := Option.some.inj read
    exact own_read
  · cases read

/-! ## Reading a document -/

/-- What a document that is read consists of. -/
structure Reads (es : Entries) (tools : ToolsConfig) : Prop where
  known : ∀ entry ∈ es, entry.1 ∈ sectionNames
  hayabusa : section? commandOf? (Entries.find? es "hayabusa") = some tools.hayabusa?
  plaso : section? commandOf? (Entries.find? es "plaso") = some tools.plaso?
  timesketch : section? timesketchOf? (Entries.find? es "timesketch") = some tools.timesketch?

/-- Entries that can be read give the tools that they describe. -/
theorem reads_of_ofEntries? (read : ofEntries? es = some tools) : Reads es tools := by
  unfold ofEntries? at read
  split at read
  · cases read
  · next known =>
    obtain ⟨hayabusa, of_hayabusa, read⟩ := Option.bind_eq_some_iff.1 read
    obtain ⟨plaso, of_plaso, read⟩ := Option.bind_eq_some_iff.1 read
    obtain ⟨timesketch, of_timesketch, read⟩ := Option.bind_eq_some_iff.1 read
    obtain rfl := Option.some.inj read
    refine ⟨fun entry among => ?_, of_hayabusa, of_plaso, of_timesketch⟩
    have listed := List.any_eq_false.1 (Bool.eq_false_iff.2 known) entry among
    rwa [Bool.not_eq_true, Bool.not_eq_false', List.contains_iff_mem] at listed

/-- A tool has a command if the text has its section. -/
theorem Reads.isSome_command?_iff (reads : Reads es tools) (kind : ToolKind) :
    (tools.command? kind).isSome ↔ (Entries.find? es kind.sectionName).isSome := by
  cases kind with
  | hayabusa => exact isSome_section?_iff reads.hayabusa
  | plaso => exact isSome_section?_iff reads.plaso
  | timesketch =>
    rw [command?, Option.isSome_map]
    exact isSome_section?_iff reads.timesketch

/-- Every command that is there can be started, or a section is named that has another one. -/
theorem startable_of_blankSection? (solid : tools.blankSection? = none)
    (own : tools.command? kind = some command) : Startable command := by
  rw [blankSection?, Option.map_eq_none_iff, List.find?_eq_none] at solid
  rw [← isBlankCommand_eq_false_iff, ← Bool.not_eq_true]
  have among : (kind.sectionName, tools.command? kind) ∈ [("hayabusa", tools.hayabusa?),
      ("plaso", tools.plaso?), ("timesketch", tools.timesketch?.map (·.command))] := by
    cases kind <;> simp [ToolKind.sectionName, command?]
  have checked := solid _ among
  rwa [own] at checked

/-- **A text that is accepted** is a document that is read, and its commands can be started. -/
theorem reads_of_parse (accepted : parse text = .ok tools) :
    (∃ es, Toml.parse? text = some es ∧ Reads es tools) ∧
      ∀ kind command, tools.command? kind = some command → Startable command := by
  unfold parse at accepted
  split at accepted
  · cases accepted
  · next found read =>
    split at accepted
    · cases accepted
    · next solid =>
      obtain rfl := Except.ok.inj accepted
      obtain ⟨es, document, read⟩ := Option.bind_eq_some_iff.1 read
      exact ⟨⟨es, document, reads_of_ofEntries? read⟩,
        fun _ _ own => startable_of_blankSection? solid own⟩

/-- An entry of a text that is accepted is one of the document that is read. -/
theorem reads_of_hasEntry (accepted : parse text = .ok tools) (there : HasEntry text name node) :
    ∃ es, Reads es tools ∧ Entries.find? es name = some node := by
  obtain ⟨⟨es, document, reads⟩, -⟩ := reads_of_parse accepted
  obtain ⟨es', document', found⟩ := there
  obtain rfl := Option.some.inj (document.symm.trans document')
  exact ⟨es, reads, found⟩

/-- What is not accepted is an error of the configuration. -/
theorem exists_cause_of_not_accepted (refused : ∀ tools, parse text ≠ .ok tools) :
    ∃ cause, parse text = .error (.config cause) := by
  unfold parse at refused ⊢
  split
  · exact ⟨_, rfl⟩
  · next found read =>
    rw [read] at refused
    dsimp only at refused
    split
    · exact ⟨_, rfl⟩
    · next solid =>
      rw [solid] at refused
      exact absurd rfl (refused found)

/-! ## What is accepted and what is refused -/

/-- **A tool has a command** if and only if its section is there, and then one that can be started.
-/
theorem command?_of_parse (accepted : parse text = .ok tools) (kind : ToolKind) :
    (SetsUp text kind ↔ ∃ command, tools.command? kind = some command) ∧
    ∀ command, tools.command? kind = some command → Startable command := by
  obtain ⟨⟨es, document, reads⟩, solid⟩ := reads_of_parse accepted
  refine ⟨?_, solid kind⟩
  rw [← Option.isSome_iff_exists]
  constructor
  · rintro ⟨node, there⟩
    obtain ⟨es', reads', found⟩ := reads_of_hasEntry accepted there
    exact (reads'.isSome_command?_iff kind).2 (Option.isSome_of_mem found)
  · intro own
    obtain ⟨node, found⟩ := Option.isSome_iff_exists.1 ((reads.isSome_command?_iff kind).1 own)
    exact ⟨node, es, document, found⟩

/-- **A section whose command is empty or begins with a blank word** is refused. -/
theorem refused_of_blank (there : HasEntry text kind.sectionName node)
    (given : words? node = some words) (blank : beginsBlank words = true) :
    ∃ cause, parse text = .error (.config cause) := by
  refine exists_cause_of_not_accepted fun tools accepted => ?_
  obtain ⟨es, reads, found⟩ := reads_of_hasEntry accepted there
  have own : ∃ command, tools.command? kind = some command ∧ words.mapM textOf? = some command := by
    cases kind with
    | hayabusa =>
      obtain ⟨command, read, own⟩ := exists_of_section? reads.hayabusa found
      exact ⟨command, own, words_of_commandOf? given read⟩
    | plaso =>
      obtain ⟨command, read, own⟩ := exists_of_section? reads.plaso found
      exact ⟨command, own, words_of_commandOf? given read⟩
    | timesketch =>
      obtain ⟨target, read, own⟩ := exists_of_section? reads.timesketch found
      exact ⟨target.command, by rw [command?, own]; rfl, words_of_timesketchOf? given read⟩
  obtain ⟨command, own, read⟩ := own
  have startable := (reads_of_parse accepted).2 kind command own
  rw [beginsBlank_of_startable read startable] at blank
  cases blank

/-- **An entry that is no section** is refused. -/
theorem refused_of_unknown (there : HasEntry text name node) (unknown : name ∉ sectionNames) :
    ∃ cause, parse text = .error (.config cause) := by
  refine exists_cause_of_not_accepted fun tools accepted => ?_
  obtain ⟨es, reads, found⟩ := reads_of_hasEntry accepted there
  exact unknown (reads.known _ (mem_of_find? found))

end ToolsConfig
end Casework
