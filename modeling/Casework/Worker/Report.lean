/-
# What a worker reports on a job

A job succeeds when its module is known, runs to its end, and every artifact is registered. The
report of a failure carries the text of the first thing that went wrong. Artifacts are
registered in their order, up to the first that is refused.
-/

import Casework.Module.Basic
import Casework.Worker.Client

namespace Casework

/-- How a run ended, as its report says it: well, or with a text. -/
abbrev RunOutcome := Except String Unit

namespace RunOutcome

/-- The report on a job that ended so. -/
def report (id : JobId) : RunOutcome → AckRequest
  | .ok () => .succeeded id
  | .error text => .failed id text

end RunOutcome

variable {σ : Type}

namespace Client

/-- Registers artifacts one after the other, up to the first that is refused. -/
def registerArtifacts (net : Network σ) (c : Client) : List Evidence → σ → RunOutcome × σ
  | [], s => (.ok (), s)
  | e :: es, s =>
    match c.registerEvidence net e s with
    | (.error err, s) =>
      (.error ("failed to register artifact " ++ e.name ++ ": " ++ err.message), s)
    | (.ok (), s) => c.registerArtifacts net es s

end Client

namespace Registry

/-- Runs the module of a job on the host. -/
def runJob (r : Registry) (d : JobDescriptor) (h : Host) : Except String (List Evidence) × Host :=
  match r.find? d.name with
  | none => (.error (ModuleError.notConfigured d.name).message, h)
  | some m =>
    match m.run d h with
    | (.done artifacts, h) => (.ok artifacts, h)
    | (.failed e, h) => (.error e.message, h)
    | (.panicked, h) => (.error "module panicked", h)

end Registry

/-- Runs a job and registers its artifacts: the report on it. -/
def reportOn (net : Network σ) (c : Client) (r : Registry) (d : JobDescriptor) (h : Host) (s : σ) :
    AckRequest × Host × σ :=
  match r.runJob d h with
  | (.error text, h) => (.failed d.id text, h, s)
  | (.ok artifacts, h) =>
    match c.registerArtifacts net artifacts s with
    | (outcome, s) => (outcome.report d.id, h, s)

end Casework
