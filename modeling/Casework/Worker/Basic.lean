/-
# Workers

A worker opens a stream, declares its modules and takes jobs from the stream. Each job becomes a
task of its own. A task waits for one of the worker's permits, holds it while its module runs
and its report is sent, and is done then, whatever becomes of the stream it came by.

| phase | the worker |
| --- | --- |
| `idle` | has no stream and is about to open one |
| `reading` | takes jobs from its stream |
| `draining` | was told to stop, keeps its stream and waits for its tasks |
| `stopped` | has stopped |

The steps can come in any order that their conditions allow; a step that is not possible gives
`none`. `Worker.run` is one such order, that takes a job only when the one before is done.
-/

import Casework.Worker.Report

namespace Casework

/-- Where a task stands. -/
inductive TaskStage where
  /-- It waits for a permit. -/
  | waiting
  /-- It holds a permit and its module runs. -/
  | executing
  /-- It holds a permit and its report is being sent. -/
  | reporting (report : AckRequest)
  /-- Its report was sent. -/
  | done (report : AckRequest)
deriving DecidableEq

namespace TaskStage

/-- The task holds a permit. -/
def holdsPermit : TaskStage → Bool
  | .executing => true
  | .reporting _ => true
  | _ => false

/-- The task is over. -/
def isDone : TaskStage → Bool
  | .done _ => true
  | _ => false

end TaskStage

/-- A job that a worker has received. -/
structure WorkerTask where
  descriptor : JobDescriptor
  stage : TaskStage := .waiting
deriving DecidableEq

/-- What a worker is doing. -/
inductive WorkerPhase where
  | idle
  | reading
  | draining
  | stopped
deriving DecidableEq, Repr

/-- A worker. -/
structure Worker where
  client : Client
  registry : Registry
  /-- How many tasks may hold a permit at once. -/
  permits : Nat
  phase : WorkerPhase := .idle
  /-- The worker was told to stop. -/
  stopping : Bool := false
  /-- Every job received, the oldest first. -/
  tasks : List WorkerTask := []

namespace Worker

/-- The most permits that can be handed out. -/
def maxPermits : Nat := 2305843009213693951

/-- A worker for so many jobs at once, at least one; `none` if those are more than can be. -/
def create? (client : Client) (registry : Registry) (concurrency : Nat) : Option Worker :=
  if maxPermits < concurrency then none
  else some { client := client, registry := registry, permits := max 1 concurrency }

/-- The modules that the worker declares; it does not start without any. -/
def declared (w : Worker) : Except Error (List String) :=
  match w.registry.names with
  | [] => .error (.config "no modules available on this worker")
  | names => .ok names

/-- The tasks that hold a permit. -/
def held (w : Worker) : Nat := w.tasks.countP fun t => t.stage.holdsPermit

/-- Every task is done. -/
def isDrained (w : Worker) : Bool := w.tasks.all fun t => t.stage.isDone

/-- The worker has its stream: it reads from it, or keeps it while it waits for its tasks. -/
def hasStream (w : Worker) : Bool :=
  match w.phase with
  | .reading => true
  | .draining => true
  | _ => false

/-- The worker with the stage of a task changed. -/
def setStage (w : Worker) (i : Nat) (t : WorkerTask) (stage : TaskStage) : Worker :=
  { w with tasks := w.tasks.set i { t with stage := stage } }

/-! ## Steps -/

/-- Someone tells the worker to stop. -/
def shutdown (w : Worker) : Worker := { w with stopping := true }

/-- The stream is opened. -/
def opened (w : Worker) : Option Worker :=
  if w.phase = .idle ∧ !w.stopping then some { w with phase := .reading } else none

/-- A line of the stream is read. Signs of life change nothing. -/
def receive (w : Worker) (d : JobDescriptor) : Option Worker :=
  if w.phase = .reading then
    if d.isKeepAlive then some w else some { w with tasks := w.tasks ++ [{ descriptor := d }] }
  else none

/-- The stream ends or fails. -/
def streamEnded (w : Worker) : Option Worker :=
  if w.phase = .reading then some { w with phase := .idle } else none

/-- The worker notices that it was told to stop, and reads no further. -/
def noticed (w : Worker) : Option Worker :=
  if w.phase = .reading ∧ w.stopping then some { w with phase := .draining } else none

/-- A waiting task gets a permit. -/
def begin (w : Worker) (i : Nat) : Option Worker :=
  match w.tasks[i]? with
  | some t =>
    if t.stage = .waiting ∧ w.held < w.permits then some (w.setStage i t .executing) else none
  | none => none

/-- The module of a task came to its end, and its artifacts are registered as far as that goes. -/
def conclude (w : Worker) (i : Nat) (report : AckRequest) : Option Worker :=
  match w.tasks[i]? with
  | some t =>
    if t.stage = .executing ∧ report.id = t.descriptor.id then
      some (w.setStage i t (.reporting report))
    else none
  | none => none

/-- The report of a task was sent, and the task gives its permit back. -/
def settle (w : Worker) (i : Nat) : Option Worker :=
  match w.tasks[i]? with
  | some t =>
    match t.stage with
    | .reporting report => some (w.setStage i t (.done report))
    | _ => none
  | none => none

/-- The worker stops: it was told to, and every task is done. -/
def stop (w : Worker) : Option Worker :=
  if (w.phase = .draining ∨ (w.phase = .idle ∧ w.stopping)) ∧ w.isDrained then
    some { w with phase := .stopped }
  else none

/-! ## One job after the other -/

variable {σ : Type}

/-- What a worker works with: itself, its host, and what lies behind the network. -/
structure Site (σ : Type) where
  worker : Worker
  host : Host
  remote : σ

namespace Site

/-- Takes a step that leaves host and network alone. -/
def step (s : Site σ) (f : Worker → Option Worker) : Option (Site σ) :=
  (f s.worker).map fun w => { s with worker := w }

/-- Runs a task from its permit to its report. -/
def runTask (net : Network σ) (s : Site σ) (i : Nat) : Option (Site σ) := do
  let s ← s.step (·.begin i)
  let t ← s.worker.tasks[i]?
  let (report, host, remote) :=
    reportOn net s.worker.client s.worker.registry t.descriptor s.host s.remote
  let s ← ({ s with host := host, remote := remote } : Site σ).step (·.conclude i report)
  let (_, remote) := s.worker.client.ack net report s.remote
  ({ s with remote := remote } : Site σ).step (·.settle i)

/-- Receives a line and runs its job to the end. -/
def take (net : Network σ) (s : Site σ) (d : JobDescriptor) : Site σ :=
  match s.step (·.receive d) with
  | none => s
  | some s => if d.isKeepAlive then s else (s.runTask net (s.worker.tasks.length - 1)).getD s

/-- Takes the lines of a stream up to its end or its first fault. -/
def readStream (net : Network σ) (now : Timestamp) : Nat → JobStream → Site σ → Site σ
  | 0, _, s => s
  | fuel + 1, stream, s =>
    match stream.next now with
    | (.ok (some d), stream) => readStream net now fuel stream (s.take net d)
    | (_, _) => s

/-- One connection: opens the stream and reads it. -/
def session (net : Network σ) (now : Timestamp) (modules : List String) (s : Site σ) : Site σ :=
  match s.worker.client.openStream net modules (UInt64.ofNat s.worker.permits) s.remote with
  | (.error _, remote) => { s with remote := remote }
  | (.ok stream, remote) =>
    match ({ s with remote := remote } : Site σ).step opened with
    | none => { s with remote := remote }
    | some s =>
      let s := readStream net now (stream.size + 1) stream s
      (s.step streamEnded).getD s

end Site

/-- The worker's life: so many connections one after the other, until it is told to stop. -/
def run (net : Network σ) (now : Timestamp) (connections : Nat) (s : Site σ) :
    Except Error Unit × Site σ :=
  match s.worker.declared with
  | .error e => (.error e, s)
  | .ok modules =>
    let s := Nat.repeat (Site.session net now modules) connections s
    let s := { s with worker := s.worker.shutdown }
    (.ok (), (s.step stop).getD s)

end Worker
end Casework
