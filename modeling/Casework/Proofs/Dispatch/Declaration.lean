/-
# The modules that a worker declares

A worker declares the names of its modules as one text with commas between them.  The server cuts
it at the commas, drops the blanks at the ends of each piece, and leaves out what is empty then.
Module names have no comma, but they may begin or end with a blank:

| name | as the server reads it |
| --- | --- |
| `Hayabusa`, `Plaso (Linux Preset)` | the same |
| a blank and then `Scan` | `Scan` |
| blanks only | left out |

So the server reads the declared names if and only if none of them has a blank at an end
(`declaration_read_iff`).  A module whose name has one is never asked for: the worker's session
lists, and its stream claims jobs under, the name without the blanks (`blank_name_lost`).
-/

import Casework.Dispatch.Connection
import Casework.Proofs.Hook.Firing
import Casework.Proofs.Module.Name

namespace Casework

open Text

/-- Neither end of the name is a blank. -/
def Snug (name : String) : Prop :=
  name.toList.head? ≠ some ' ' ∧ name.toList.getLast? ≠ some ' '

instance (name : String) : Decidable (Snug name) :=
  inferInstanceAs (Decidable (_ ∧ _))

variable {name : String} {names : List String}

/-- A module name is read as it is if and only if it has no blank at its ends. -/
theorem trim_eq_iff (named : isModuleName name = true) : trim name = name ↔ Snug name := by
  obtain ⟨-, -, listed⟩ := isModuleName_iff.1 named
  have no_blank (c : Char) (member : c ∈ name.toList) : isBlank c = false ↔ c ≠ ' ' := by
    rw [← Bool.not_eq_true, isBlank_iff (listed c member)]
  have at_end (c? : Option Char) (members : ∀ c ∈ c?, c ∈ name.toList) :
      (∀ c ∈ c?, isBlank c = false) ↔ c? ≠ some ' ' := by
    cases c? with
    | none => simp
    | some c => simpa using no_blank c (members c rfl)
  rw [← String.toList_inj, trim, String.toList_ofList, trimChars_eq_iff,
    at_end _ fun c => List.mem_of_mem_head?, at_end _ fun c => List.mem_of_mem_getLast?]
  rfl

/-- Names are read as they are if and only if none has a blank at its ends. -/
theorem trimmedTexts_eq_iff (named : ∀ name ∈ names, isModuleName name = true) :
    trimmedTexts names = names ↔ ∀ name ∈ names, Snug name := by
  have fixed : names.map trim = names ↔ ∀ name ∈ names, Snug name :=
    map_eq_self_iff.trans (forall₂_congr fun name member => trim_eq_iff (named name member))
  rw [← fixed]
  constructor
  · intro same
    have whole : trimmedTexts names = names.map trim := by
      refine List.filter_sublist.eq_of_length_le ?_
      rw [List.length_map, ← trimmedTexts, same]
    rw [← whole, same]
  · intro same
    rw [trimmedTexts, same, List.filter_eq_self]
    intro name member
    simpa using (isModuleName_iff.1 (named name member)).1

/-! ## What the server makes of it -/

/-- The server has put a worker on record: with a session, and with a task behind its stream unless
the timers cannot be set up; both are for these modules. -/
structure Server.Enrolled (s s' : Server) (token : WorkerToken) (modules : List String) : Prop where
  session : ∃ session, s'.dispatcher.sessions = s.dispatcher.sessions.insert session ∧
    session.workerToken = token ∧ session.supportedModules = modules
  stream : ∃ task? : Option Connection,
    s'.dispatcher.connections = s.dispatcher.connections ++ task?.toList ∧
      ∀ c ∈ task?, c.token = token ∧ c.modules = modules

/-- A worker that is enrolled is put on record with its modules. -/
theorem Server.enrolled_enroll (s : Server) (now : Nat) (modules : List String) (workers : UInt64)
    (remote : String) : s.Enrolled (s.enroll now modules workers remote).2
      (s.enroll now modules workers remote).1 modules := by
  refine ⟨⟨_, rfl, rfl, rfl⟩, _, rfl, fun c started => ?_⟩
  simp only [Connection.start?, Option.bind_eq_bind, Option.mem_def, Option.bind_eq_some_iff]
    at started
  obtain ⟨poll, -, keepAlive, -, made⟩ := started
  obtain rfl := Option.some.inj made
  exact ⟨rfl, rfl⟩

/-- Declared names that are well-formed are accepted, if there are any. -/
theorem declaredModules_eq {params : ConnectParams} (read : params.moduleNames = names)
    (named : ∀ name ∈ names, isModuleName name = true) : Server.declaredModules params =
      if names = [] then .error (.validation "worker declared no modules") else .ok names := by
  subst read
  unfold Server.declaredModules
  split
  · next nothing => rw [if_pos nothing]
  · next some_name =>
    rw [if_neg some_name, checkModuleNames_eq_ok_iff.2 named]
    rfl

/-- **Declared names that are read back.** A worker with a registry that was filled by registering
declares its names; the server reads them without the blanks at their ends, and without those that
have nothing else. That is the same list if and only if no name has a blank at an end. The server
refuses a worker if nothing is left, and otherwise puts it on record under what it read. -/
theorem declaration_read_iff {ms : List Module} {r : Registry}
    (filled : ({} : Registry).registerAll ms = .ok r) (workers : UInt64) :
    ((ConnectParams.ofModules r.names workers).moduleNames = r.names ↔
      ∀ name ∈ r.names, Snug name) ∧
    (ConnectParams.ofModules r.names workers).moduleNames = trimmedTexts r.names ∧
    ∀ (s : Server) (now : Nat) (remote : String),
      if trimmedTexts r.names = [] then
        s.connect now (ConnectParams.ofModules r.names workers) remote =
          (.error (.validation "worker declared no modules"), [], s)
      else ∃ token, ∃ s' : Server, s.Enrolled s' token (trimmedTexts r.names) ∧
        s.connect now (ConnectParams.ofModules r.names workers) remote =
          (.ok token, s'.openStream now token) := by
  have named : ∀ name ∈ r.names, isModuleName name = true := by
    have wellNamed : r.WellNamed :=
      Registry.wellNamed_registerAll (fun m member => absurd member List.not_mem_nil) filled
    intro name member
    obtain ⟨m, held, rfl⟩ := List.mem_map.1 member
    exact checkModuleName_eq_ok_iff.1 (wellNamed m held)
  have read : (ConnectParams.ofModules r.names workers).moduleNames = trimmedTexts r.names :=
    commaPieces_joinWith fun name member => comma_not_mem (named name member)
  refine ⟨read ▸ trimmedTexts_eq_iff named, read, fun s now remote => ?_⟩
  have trimmed_named : ∀ name ∈ trimmedTexts r.names, isModuleName name = true := by
    intro name member
    obtain ⟨trimmed, some_char⟩ := List.mem_filter.1 member
    obtain ⟨name, own, rfl⟩ := List.mem_map.1 trimmed
    exact isModuleName_trim (named name own) (by simpa using some_char)
  rw [Server.connect, declaredModules_eq read trimmed_named]
  by_cases nothing : trimmedTexts r.names = []
  · rw [if_pos nothing, if_pos nothing]
  · rw [if_neg nothing, if_neg nothing]
    exact ⟨_, _, s.enrolled_enroll now (trimmedTexts r.names) workers remote, rfl⟩

/-- A registry whose only module has a name, and does nothing. -/
def registryOf (name : String) : Except Error Registry :=
  ({} : Registry).registerAll
    [⟨name, "", fun _ => true, fun h => (.ok (), h), fun _ h => (.done [], h)⟩]

/-- **A blank in front of a name is lost on the way.** The name is accepted by the registry, and the
server reads another one. -/
theorem blank_name_lost : ∃ r, registryOf " Scan" = .ok r ∧
    (ConnectParams.ofModules r.names 1).moduleNames = ["Scan"] ∧
    (ConnectParams.ofModules r.names 1).moduleNames ≠ r.names :=
  ⟨_, rfl, by decide +kernel, by decide +kernel⟩

/-- The built-in modules are read by their names. -/
theorem declaration_read_iff_builtin : ∃ r, Registry.builtin {} "." = .ok r ∧
    "Plaso (Windows Preset)" ∈ r.names ∧
    (ConnectParams.ofModules r.names 2).moduleNames = r.names := by
  have filled : ∃ r, ({} : Registry).registerAll
      ((ToolModule.builtin {} ".").map ToolModule.toModule) = .ok r ∧
      "Plaso (Windows Preset)" ∈ r.names ∧ ∀ name ∈ r.names, Snug name :=
    ⟨_, rfl, by decide +kernel, by decide +kernel⟩
  obtain ⟨r, filled, known, snug⟩ := filled
  exact ⟨r, filled, known, (declaration_read_iff filled 2).1.2 snug⟩

end Casework
