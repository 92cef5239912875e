/-
# One server, step by step

The tasks behind the streams, the clients' requests and the end of the server take turns, and any
of them may act between two statements of another.  An `Action` is one such turn: a task looks for
a job, goes on with what it has in hand, stops, gives its jobs back or drops its session; a worker
connects; a client's request makes one statement on the store; a table gets out of reach or comes
back.  What is not possible at the moment does nothing (`act`), so every list of actions is a run,
and the runs are all the interleavings.

| action | the task before | the task after |
| --- | --- | --- |
| `connect` | none | serving |
| `poll` | serving | describing a job, serving, leaving |
| `keepAlive` | serving | writing |
| `proceed` | describing, failing, writing | the next of these, serving, leaving |
| `leave` | serving | leaving |
| `release` | leaving | released |
| `forget` | released | none |

The timers of a task play no part here: `poll` and `keepAlive` may come at any moment, and a task
may leave at any moment, for its worker may be gone or the server shut down.

A client's request is made of several statements, between which others act.  `ByStatements` says
so of a report, a pushed job and registered evidence: whatever else they do is looking things up.
-/

import Casework.Proofs.Store.Operations
import Casework.Dispatch.Connection

namespace Casework

/-- The job that a task has in hand: claimed, and its line not yet written. -/
def ConnectionPhase.inHand? : ConnectionPhase → Option JobId
  | .describing job _ => some job.id
  | .failing id _ => some id
  | .writing d => if d.case?.isSome then some d.id else none
  | _ => none

/-- The task has not stopped. -/
def ConnectionPhase.serves : ConnectionPhase → Bool
  | .leaving => false
  | .released => false
  | _ => true

/-- Where the task of a worker stands. -/
def Server.phase? (s : Server) (worker : WorkerToken) : Option ConnectionPhase :=
  (s.connection? worker).map Connection.phase

/-- A table gets out of reach, or comes back. -/
def Store.reach (s : Store) (t : Store.TableName) (lost : Bool) : Store :=
  match t with
  | .jobs => { s with jobs := { s.jobs with lost := lost } }
  | .cases => { s with cases := { s.cases with lost := lost } }
  | .evidences => { s with evidences := { s.evidences with lost := lost } }
  | .hooks => { s with hooks := { s.hooks with lost := lost } }

namespace Dispatch

/-- A statement that a client's request makes on the store. -/
inductive Statement where
  | enqueue (caseId evidenceId moduleName : String)
  | ack (report : AckRequest)
  | saveCase (c : Case)
  | saveEvidence (e : Evidence)
  | saveHook (h : Hook)
  | deleteHook (id : String)

/-- Makes a statement on behalf of a server. -/
def Statement.run (d : Dispatcher) : Statement → StoreM Unit
  | .enqueue caseId evidenceId moduleName =>
    (fun _ => ()) <$> Store.enqueue d.token caseId evidenceId moduleName
  | .ack report => (fun _ => ()) <$> Dispatcher.ack report
  | .saveCase c => Store.saveCase c
  | .saveEvidence e => Store.saveEvidence e
  | .saveHook h => Store.saveHook h
  | .deleteHook id => Store.deleteHook id

/-- One turn of something that goes on at a server. -/
inductive Action where
  | connect (now : ℕ) (params : ConnectParams) (remote : String)
  | poll (now : ℕ) (worker : WorkerToken)
  | keepAlive (now : ℕ) (worker : WorkerToken)
  | proceed (worker : WorkerToken) (written : Bool)
  | leave (worker : WorkerToken)
  | release (worker : WorkerToken)
  | forget (worker : WorkerToken)
  | shutdown
  | request (statement : Statement)
  | reach (table : Store.TableName) (lost : Bool)

/-- What the task of a worker does if it is in a phase. -/
def whenIn (phase : ConnectionPhase) (worker : WorkerToken) (s : Server)
    (go : Connection → List StreamEvent × Server) : List StreamEvent × Server :=
  match s.connection? worker with
  | some c => if c.phase = phase then go c else ([], s)
  | none => ([], s)

/-- What an action does: what the workers see, and the server after it. -/
def act (s : Server) : Action → List StreamEvent × Server
  | .connect now params remote =>
    match Server.declaredModules params with
    | .ok modules => ([], (s.enroll now modules params.workers remote).2)
    | .error _ => ([], s)
  | .poll now worker => whenIn .serving worker s fun c => s.firePoll now c
  | .keepAlive now worker => whenIn .serving worker s fun c => ([], s.fireKeepAlive now c)
  | .proceed worker written => s.proceed worker written
  | .leave worker => whenIn .serving worker s fun _ => ([], s.leave worker)
  | .release worker => whenIn .leaving worker s fun _ => ([], (s.release worker).2)
  | .forget worker => whenIn .released worker s fun _ => ([], s.forget worker)
  | .shutdown => ([], { s with dispatcher := { s.dispatcher with stopping := true } })
  | .request statement => ([], (s.onStore (statement.run s.dispatcher)).2)
  | .reach table lost => ([], { s with store := s.store.reach table lost })

/-- The server after some actions. -/
def run : List Action → Server → Server
  | [], s => s
  | a :: actions, s => run actions (act s a).2

/-- Two runs, one after the other, are one. -/
theorem run_append (actions more : List Action) (s : Server) :
    run (actions ++ more) s = run more (run actions s) := by
  induction actions generalizing s with
  | nil => rfl
  | cons a actions ih => exact ih _

/-- **What a step keeps, a run keeps.** -/
theorem run_induction {P : Server → Prop} {Q : Action → Prop}
    (step : ∀ s a, Q a → P s → P (act s a).2) {actions : List Action} {s : Server}
    (fine : ∀ a ∈ actions, Q a) (start : P s) : P (run actions s) := by
  induction actions generalizing s with
  | nil => exact start
  | cons a actions ih =>
    obtain ⟨first, rest⟩ := List.forall_mem_cons.1 fine
    exact ih rest (step s a first start)

/-! ## Requests as a whole -/

/-- What a request leaves is what some statements leave, one after the other. -/
def ByStatements {α : Type} (d : Dispatcher) (op : StoreM α) : Prop :=
  ∀ store, ∃ statements : List Statement,
    run (statements.map .request) ⟨store, d⟩ = ⟨(op store).2, d⟩

variable {α : Type} {d : Dispatcher}

/-- What changes no store is no statement at all. -/
theorem byStatements_of_unchanged {op : StoreM α} (h : ∀ store, (op store).2 = store) :
    ByStatements d op :=
  fun store => ⟨[], by rw [h]; rfl⟩

/-- What leaves the same store as a statement is made of it. -/
theorem byStatements_of_run {op : StoreM α} (statement : Statement)
    (h : ∀ store, (statement.run d store).2 = (op store).2) : ByStatements d op :=
  fun store => ⟨[statement], by rw [← h]; rfl⟩

/-- One request after another is made of the statements of both. -/
theorem byStatements_bind {β : Type} {op : StoreM α} {next : α → StoreM β}
    (first : ByStatements d op) (rest : ∀ a, ByStatements d (next a)) :
    ByStatements d (op >>= next) := by
  intro store
  obtain ⟨front, hfront⟩ := first store
  rw [Store.run_bind]
  rcases answer : op store with ⟨e | a, store'⟩ <;> rw [answer] at hfront
  · exact ⟨front, hfront⟩
  · obtain ⟨back, hback⟩ := rest a store'
    refine ⟨front ++ back, ?_⟩
    rw [List.map_append, run_append, hfront]
    exact hback

/-- To queue a job is one statement. -/
theorem byStatements_enqueue (caseId evidenceId moduleName : String) :
    ByStatements d (Store.enqueue d.token caseId evidenceId moduleName) :=
  byStatements_of_run (.enqueue caseId evidenceId moduleName) fun store => by
    rw [Statement.run, Store.run_map]

/-- **A report is one statement.** -/
theorem byStatements_ack (report : AckRequest) : ByStatements d (Dispatcher.ack report) :=
  byStatements_of_run (.ack report) fun store => by rw [Statement.run, Store.run_map]

/-- **Pushing a job** is made of statements. -/
theorem byStatements_pushJob (request : PushJobRequest) :
    ByStatements d (d.pushJob request) := by
  refine byStatements_bind (byStatements_of_unchanged fun store => ?_) fun _ => ?_
  · rw [Store.run_lift]
  · split
    · exact byStatements_of_unchanged fun store => rfl
    · refine byStatements_bind ?_ fun _ => byStatements_enqueue _ _ _
      exact byStatements_of_unchanged fun store => Store.getEvidence_unchanged _ _ store

/-- **Registering evidence** is made of statements, a queued job for every hook that fires. -/
theorem byStatements_registerEvidence (e : Evidence) :
    ByStatements d (d.registerEvidence e) := by
  have queue (hooks : List Hook) : ByStatements d (Hook.enqueueAll d.token e hooks) := by
    induction hooks with
    | nil => exact byStatements_of_unchanged fun store => rfl
    | cons hook hooks ih =>
      refine byStatements_bind (byStatements_enqueue _ _ _) fun job => ?_
      exact byStatements_bind ih fun jobs => byStatements_of_unchanged fun store => rfl
  refine byStatements_bind ?_ fun _ => byStatements_bind ?_ fun _ =>
    byStatements_bind ?_ fun _ => ?_
  · exact byStatements_of_unchanged fun store => Store.getCase_unchanged _ store
  · exact byStatements_of_run (.saveEvidence e) fun store => rfl
  · exact byStatements_of_unchanged fun store => Store.listHooks_unchanged store
  · exact queue _

/-! ## A small store -/

/-- The case of the lone job. -/
def loneCase : Case := ⟨"case", "Laptop", 0⟩

/-- The evidence of the lone job. -/
def loneItem : Evidence := ⟨"item", "case", "disk", "Security.evtx", "", "", 0, "", .epoch⟩

/-- A store with one waiting job, whose names are `w`, `ww` and so on. -/
def lone : Store where
  jobs := { rows := [.scheduled "job" "case" "item" "Hayabusa" "former" .epoch] }
  cases := { rows := [loneCase] }
  evidences := { rows := [loneItem] }
  supply := {
    ident := fun n => String.ofList (List.replicate (n + 1) 'w')
    clock := fun _ => .epoch }

/-- The names that the store hands out have not been handed out before. -/
theorem fresh_lone : lone.supply.Fresh := by
  intro m n same
  simpa [lone] using congrArg String.length same

/-- The one job has an id of its own. -/
theorem keyed_lone : Keyed lone.jobs.rows := List.nodup_singleton _

end Dispatch
end Casework
