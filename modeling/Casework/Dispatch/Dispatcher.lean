/-
# The dispatcher

A dispatcher hands queued jobs to connected workers and takes their reports. It is one server's
view of the store: jobs that it queues or claims carry its token. What concerns the open streams
is in `Casework.Dispatch.Connection`; here are the operations on the store.
-/

import Casework.Dispatch.Session
import Casework.Dispatch.Timer
import Casework.Hook.Runner

namespace Casework

open Text

/-- How often a stream looks for a job and shows a sign of life, in milliseconds. -/
structure DispatchTiming where
  pollInterval : Nat := 1000
  keepAliveInterval : Nat := 60000
deriving DecidableEq, Repr

/-- Where the task of a stream stands. -/
inductive ConnectionPhase where
  /-- It waits for its timers. -/
  | serving
  /-- It has claimed a job and looks its records up, the case first. -/
  | describing (job : Job) (case? : Option Case)
  /-- It has claimed a job whose records are gone, and is about to fail it. -/
  | failing (id : JobId) (missing : String)
  /-- It is about to write a line. -/
  | writing (d : JobDescriptor)
  /-- It has stopped and still holds its jobs. -/
  | leaving
  /-- It has given its jobs back and is still on record. -/
  | released
deriving DecidableEq

/-- The task behind an open stream. -/
structure Connection where
  token : WorkerToken
  modules : List String
  poll : Timer
  keepAlive : Timer
  phase : ConnectionPhase := .serving
deriving DecidableEq

/-- The task behind a new stream: it looks for a job at once and shows a sign of life after one
interval. There is none if a timer cannot be set up. -/
def Connection.start? (timing : DispatchTiming) (now : Nat) (token : WorkerToken)
    (modules : List String) : Option Connection := do
  let poll ← Timer.start? timing.pollInterval now
  let keepAlive ← Timer.start? timing.keepAliveInterval (now + timing.keepAliveInterval)
  return { token, modules, poll, keepAlive }

/-- One running server: its token, what it knows, and its open streams. -/
structure Dispatcher where
  token : InstanceToken
  registry : Registry
  rules : RuleEngine := namePatternRules
  timing : DispatchTiming := {}
  sessions : Sessions := {}
  connections : List Connection := []
  /-- The server is shutting down. -/
  stopping : Bool := false

namespace Dispatcher

/-- Puts the jobs of earlier servers back into the queue. -/
def reclaimStaleJobs (d : Dispatcher) : StoreM Nat := Store.releaseStaleJobs d.token

/-- Puts the jobs of a worker that is gone back into the queue. -/
def reclaimWorkerJobs (worker : WorkerToken) : StoreM Nat := Store.releaseWorkerJobs worker

/-- Records a worker's report; tells whether it changed the job. -/
def ack (report : AckRequest) : StoreM Bool := Store.ack report.id report.status report.error

/-- Queues a module run that an operator asked for. -/
def pushJob (d : Dispatcher) (request : PushJobRequest) : StoreM Job := do
  checkModuleName request.moduleName
  if !d.registry.contains request.moduleName then
    throw (.validation ("unknown module " ++ quote request.moduleName))
  let _ ← Store.getEvidence request.caseId request.evidenceId
  Store.enqueue d.token request.caseId request.evidenceId request.moduleName

/-- The jobs on an item of a case, the oldest first. -/
def evidenceJobs (caseId evidenceId : String) : StoreM (List Job) := do
  let _ ← Store.getEvidence caseId evidenceId
  Store.listJobs evidenceId

/-- A module with the outcome of its latest job among the given ones, the oldest first. -/
def latestRun (jobs : List Job) (m : Module) : ModuleRun :=
  match jobs.reverse.find? fun j => j.moduleName == m.name with
  | some j => ⟨m.name, m.description, some j.status, j.error⟩
  | none => ⟨m.name, m.description, none, ""⟩

/-- The modules that apply to an item, each with the outcome of its latest job there. -/
def runnableModules (d : Dispatcher) (caseId evidenceId : String) : StoreM (List ModuleRun) := do
  let e ← Store.getEvidence caseId evidenceId
  let jobs ← Store.listJobs evidenceId
  return (d.registry.supported e).map (latestRun jobs)

/-- Saves an item of evidence and fires the hooks for it. -/
def registerEvidence (d : Dispatcher) (e : Evidence) : StoreM (List Job) := do
  let _ ← Store.getCase e.caseId
  Store.saveEvidence e
  Hook.onEvidenceAdded d.token d.registry d.rules e

end Dispatcher
end Casework
