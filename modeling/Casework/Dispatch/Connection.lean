/-
# Streams of connected workers

A worker opens a stream and declares its modules. The task behind the stream looks for a job at
once and then on every beat of its timer, and shows a sign of life on a slower one. A job that it
claims goes from hand to hand: its case and its evidence are looked up, and the line is written,
or the job is failed because a record is gone. Each of these is a step of its own (`proceed`), and
other tasks may act between any two of them.

The task ends when the worker goes away, a line cannot be written, the store fails, or the server
shuts down; then it first gives back the jobs it holds (`release`) and only after that drops the
session (`forget`), so that no session is ever gone while its jobs still look held.

The steps change a `Server`: a store with one dispatcher on it. What happened on the streams is
told by `StreamEvent`s.
-/

import Casework.Dispatch.Dispatcher

namespace Casework

/-- Something that a worker sees on its stream. -/
inductive StreamEvent where
  /-- A line arrived. -/
  | line (worker : WorkerToken) (d : JobDescriptor)
  /-- The server ended the stream. -/
  | closed (worker : WorkerToken)
deriving DecidableEq

namespace StreamEvent

/-- The line that an event is about, with its worker. -/
def line? : StreamEvent → Option (WorkerToken × JobDescriptor)
  | .line w d => some (w, d)
  | .closed _ => none

/-- The worker whose stream an event ends. -/
def closed? : StreamEvent → Option WorkerToken
  | .line _ _ => none
  | .closed w => some w

end StreamEvent

/-- A store and one dispatcher on it. -/
structure Server where
  store : Store
  dispatcher : Dispatcher

namespace Server

/-- An operation of the store, seen from the server. -/
def onStore {α : Type} (s : Server) (op : StoreM α) : Except Error α × Server :=
  match op s.store with
  | (result, store) => (result, { s with store := store })

/-- The connection of a token. -/
def connection? (s : Server) (token : WorkerToken) : Option Connection :=
  s.dispatcher.connections.find? fun c => c.token == token

/-- Changes the connection of a token. -/
def updateConnection (s : Server) (token : WorkerToken) (f : Connection → Connection) : Server :=
  { s with dispatcher := { s.dispatcher with
      connections := changeAll (fun c => c.token == token) f s.dispatcher.connections } }

/-- The task of a stream goes over to a phase. -/
def turn (s : Server) (token : WorkerToken) (phase : ConnectionPhase) : Server :=
  s.updateConnection token fun c => { c with phase := phase }

/-- The task of a stream stops serving. -/
def leave (s : Server) (token : WorkerToken) : Server := s.turn token .leaving

/-- The task that stopped gives its jobs back. If the store fails it goes on all the same. -/
def release (s : Server) (token : WorkerToken) : Except Error Nat × Server :=
  match s.onStore (Dispatcher.reclaimWorkerJobs token) with
  | (result, s) => (result, s.turn token .released)

/-- The task that gave its jobs back drops its session and ends. -/
def forget (s : Server) (token : WorkerToken) : Server :=
  { s with dispatcher := { s.dispatcher with
      sessions := s.dispatcher.sessions.without token
      connections := s.dispatcher.connections.filter fun c => c.token != token } }

/-- The whole end of a stream: stop, release, forget. -/
def close (s : Server) (token : WorkerToken) : Server :=
  ((s.leave token).release token).2.forget token

/-- Ends a stream whose task has stopped serving. -/
def finish (s : Server) (token : WorkerToken) : Server :=
  match s.connection? token with
  | some c => if c.phase = .leaving then (s.release token).2.forget token else s
  | none => s

/-- Events and the server after them, and what follows. -/
def andThen (p : List StreamEvent × Server) (next : Server → List StreamEvent × Server) :
    List StreamEvent × Server :=
  let (events, s) := next p.2
  (p.1 ++ events, s)

/-- Writes a line on a stream. If it cannot be written, for the worker is gone or the server shuts
down, the task stops serving. -/
def write (s : Server) (token : WorkerToken) (d : JobDescriptor) (written : Bool) :
    List StreamEvent × Server :=
  if written then ([.line token d], s.turn token .serving) else ([.closed token], s.leave token)

/-- The task of a stream waits for an answer of the store and goes on as the answer says. -/
def await {α : Type} (s : Server) (token : WorkerToken) (op : StoreM α)
    (next : Except Error α → ConnectionPhase) : List StreamEvent × Server :=
  let (answer, s) := s.onStore op
  let phase := next answer
  (if phase = .leaving then [.closed token] else [], s.turn token phase)

/-- What a task does once a record of its job was looked up: a job whose record is gone is failed,
and a store that fails ends the stream. -/
def afterLookUp {α : Type} (id : JobId) (found : α → ConnectionPhase) :
    Except Error α → ConnectionPhase
  | .ok a => found a
  | .error (.notFound missing) => .failing id missing
  | .error _ => .leaving

/-- What a task does once it has looked for a job. -/
def afterClaim : Except Error (Option Job) → ConnectionPhase
  | .ok none => .serving
  | .ok (some job) => .describing job none
  | .error _ => .leaving

/-- What a task does once it has failed a job. -/
def afterFailing : Except Error Bool → ConnectionPhase
  | .ok _ => .serving
  | .error _ => .leaving

/-- The next step of a task that has something in hand; `written` tells whether a line that is due
can be written. -/
def proceed (s : Server) (token : WorkerToken) (written : Bool) : List StreamEvent × Server :=
  match (s.connection? token).map Connection.phase with
  | some (.describing job none) =>
    s.await token (Store.getCase job.caseId) (afterLookUp job.id fun c => .describing job (some c))
  | some (.describing job (some c)) =>
    s.await token (Store.getEvidence job.caseId job.evidenceId)
      (afterLookUp job.id fun e => .writing (.ofJob job token c e))
  | some (.failing id missing) =>
    s.await token (Store.ack id .failed (missing ++ " no longer exists")) afterFailing
  | some (.writing d) => s.write token d written
  | _ => ([], s)

/-- The poll timer fires: the task claims a job, if one waits for it. -/
def firePoll (s : Server) (now : Nat) (c : Connection) : List StreamEvent × Server :=
  (s.updateConnection c.token fun c => { c with poll := c.poll.advance now }).await c.token
    (Store.claimNext s.dispatcher.token c.token c.modules) afterClaim

/-- The keep-alive timer fires: the task is about to show a sign of life. -/
def fireKeepAlive (s : Server) (now : Nat) (c : Connection) : Server :=
  (s.updateConnection c.token fun c => { c with keepAlive := c.keepAlive.advance now }).turn
    c.token (.writing (.keepAlive c.token))

/-- All that a task has in hand, while the stream can be written, and the end of the stream if it
came to that. -/
def workOff (s : Server) (token : WorkerToken) : List StreamEvent × Server :=
  let step (s : Server) := s.proceed token true
  let (events, s) := andThen (andThen (step s) step) step
  (events, s.finish token)

/-- A sign of life is shown if its timer is due. -/
def beatKeepAlive (s : Server) (now : Nat) (c : Connection) : List StreamEvent × Server :=
  if c.keepAlive.isDue now then (s.fireKeepAlive now c).workOff c.token else ([], s)

/-- A job is looked for if the poll timer is due. -/
def beatPoll (s : Server) (now : Nat) (c : Connection) : List StreamEvent × Server :=
  if c.poll.isDue now then andThen (s.firePoll now c) fun s => s.workOff c.token else ([], s)

/-- Both timers of a stream at a moment. -/
def beat (s : Server) (now : Nat) (c : Connection) : List StreamEvent × Server :=
  andThen (s.beatKeepAlive now c) fun s => s.beatPoll now c

/-- Puts a worker on record, with the task behind its stream. If the timers cannot be set up there
is no task, and the session stays. -/
def enroll (s : Server) (now : Nat) (modules : List String) (workers : UInt64) (remote : String) :
    WorkerToken × Server :=
  let (token, supply) := s.store.supply.next
  let (time, supply) := supply.now
  let session : WorkerSession := ⟨token, remote, modules, workers, time⟩
  let task? := Connection.start? s.dispatcher.timing now token modules
  (token, ⟨{ s.store with supply := supply }, { s.dispatcher with
    sessions := s.dispatcher.sessions.insert session
    connections := s.dispatcher.connections ++ task?.toList }⟩)

/-- The first beat of a new stream. A stream without a task ends at once, and so does one of a
server that shuts down. -/
def openStream (s : Server) (now : Nat) (token : WorkerToken) : List StreamEvent × Server :=
  match s.connection? token with
  | none => ([.closed token], s)
  | some c =>
    if s.dispatcher.stopping then ([.closed token], s.close token) else s.beat now c

/-- The modules that a worker declares, each name well-formed and at least one. -/
def declaredModules (params : ConnectParams) : Except Error (List String) :=
  match params.moduleNames with
  | [] => .error (.validation "worker declared no modules")
  | names => (checkModuleNames names).map fun _ => names

/-- Opens a stream for a worker. -/
def connect (s : Server) (now : Nat) (params : ConnectParams) (remote : String) :
    Except Error WorkerToken × List StreamEvent × Server :=
  match declaredModules params with
  | .error e => (.error e, [], s)
  | .ok modules =>
    let (token, s) := s.enroll now modules params.workers remote
    let (events, s) := s.openStream now token
    (.ok token, events, s)

/-- The worker goes away. -/
def disconnect (s : Server) (token : WorkerToken) : Server :=
  match s.connection? token with
  | some _ => s.close token
  | none => s

/-- The server shuts down: every stream ends. -/
def shutdown (s : Server) : List StreamEvent × Server :=
  let s := { s with dispatcher := { s.dispatcher with stopping := true } }
  s.dispatcher.connections.foldl (fun (events, s) c =>
    (events ++ [.closed c.token], s.close c.token)) ([], s)

/-- A server that has just been started: it takes the jobs of earlier ones back. -/
def start (s : Server) : Except Error Nat × Server := s.onStore s.dispatcher.reclaimStaleJobs

end Server
end Casework
