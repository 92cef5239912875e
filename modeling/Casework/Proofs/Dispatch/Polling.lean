/-
# One tick of the poll timer

A tick is one thing after another: the task claims a job, looks up its case and then its evidence,
and writes its line or fails the job, and a task that has stopped gives its jobs back and is gone
(`Server.pollOnce`).  Whatever is on record, it comes to one of four things (`Polled`):

| the job | its records | the line | the row of the job after | the stream |
| --- | --- | --- | --- | --- |
| none waits | | | | goes on |
| the oldest that waits | one is missing | | failed, and says which | goes on |
| the oldest that waits | both are there | written | running for this worker | goes on |
| the oldest that waits | both are there | not written | waiting again | is over |

In between the server is as it was but for its store and the phase of the task (`Server.ticking`),
so each step is an equation, and so is the tick as a whole (`pollOnce_eq`).
-/

import Casework.Proofs.Dispatch.Naming
import Casework.Proofs.Dispatch.Schedules
import Casework.Proofs.Queue.Order
import Casework.Proofs.Store.References

namespace Casework

/-! ## Statements that succeed -/

namespace Store

variable {s : Store} {r : JobRow}

/-- Whatever a tick asks of the store is answered: the tables are in reach, and the time at which a
job was queued can be read. -/
structure Answers (s : Store) : Prop where
  jobs : s.jobs.lost = false
  cases : s.cases.lost = false
  evidences : s.evidences.lost = false
  readable : ∀ r ∈ s.jobs.rows, r.createdAt?.isSome = true

/-- The records that a job is on. -/
structure Present (s : Store) (r : JobRow) (case : Case) (item : Evidence) : Prop where
  case : s.cases.rows.find? (fun x => x.id == r.caseId) = some case
  item : s.evidences.rows.find? (fun x => x.caseId == r.caseId && x.id == r.evidenceId) = some item

/-- The first record that a job is on and that is missing, its case or its evidence. -/
inductive Missing (s : Store) (r : JobRow) : String → Prop where
  | case (gone : ¬s.HasCase r.caseId) : Missing s r ("case " ++ r.caseId)
  | evidence (there : s.HasCase r.caseId) (gone : ¬s.Filed r.caseId r.evidenceId) :
      Missing s r ("evidence " ++ r.evidenceId ++ " in case " ++ r.caseId)

/-- The look-ups of the records of a job, in a store that has the same: the case is not found, or it
is and the item is not, or both are. -/
theorem lookUp_cases (answers : s.Answers) (r : JobRow) (s' : Store) (cases : s'.cases = s.cases)
    (evidences : s'.evidences = s.evidences) :
    (s.Missing r ("case " ++ r.caseId) ∧
        getCase r.caseId s' = (.error (.notFound ("case " ++ r.caseId)), s')) ∨
      ∃ case, getCase r.caseId s' = (.ok case, s') ∧
        ((s.Missing r ("evidence " ++ r.evidenceId ++ " in case " ++ r.caseId) ∧
            getEvidence r.caseId r.evidenceId s' = (.error (.notFound
              ("evidence " ++ r.evidenceId ++ " in case " ++ r.caseId)), s')) ∨
          ∃ item, getEvidence r.caseId r.evidenceId s' = (.ok item, s') ∧
            s.Present r case item) := by
  cases found : s.cases.rows.find? fun x => x.id == r.caseId with
  | none =>
    refine .inl ⟨.case ?_, by simp [getCase, cases, answers.cases, found]⟩
    rintro ⟨x, member, id⟩
    exact List.find?_eq_none.1 found x member (beq_iff_eq.2 id)
  | some case =>
    refine .inr ⟨case, by simp [getCase, cases, answers.cases, found], ?_⟩
    cases filed : s.evidences.rows.find? fun x => x.caseId == r.caseId && x.id == r.evidenceId with
    | none =>
      refine .inl ⟨.evidence ?_ ?_, by simp [getEvidence, evidences, answers.evidences, filed]⟩
      · exact ⟨case, List.mem_of_find?_eq_some found, by simpa using List.find?_some found⟩
      · rintro ⟨x, member, id, caseId⟩
        exact List.find?_eq_none.1 filed x member (by simp [id, caseId])
    | some item =>
      exact .inr ⟨item, by simp [getEvidence, evidences, answers.evidences, filed], found, filed⟩

/-- **A running job is failed,** and no other row changes. -/
theorem run_ack_failed {front back : List JobRow} (rows : s.jobs.rows = front ++ r :: back)
    (keyed : Keyed (front ++ r :: back)) (there : s.jobs.lost = false)
    (running : r.status = .running) (error : String) :
    ack r.id .failed error s = (.ok true, { s with
      supply := s.supply.now.2
      jobs := ⟨front ++ r.finished .failed error s.supply.now.1 :: back, false⟩ }) := by
  let due (x : JobRow) := x.id == r.id && x.status == .running
  have own : due r = true := by simp [due, running]
  have others : ∀ x ∈ front ++ back, due x = false := fun x hx => by simp [due, keyed.id_ne hx]
  have changed : changeAll due (JobRow.finished .failed error s.supply.now.1) s.jobs.rows =
      front ++ r.finished .failed error s.supply.now.1 :: back := rows ▸ changeAll_only others own
  have held : s.jobs.rows.any due = true :=
    List.any_eq_true.2 ⟨r, by simp [rows], own⟩
  unfold ack
  simp only [JobStatus.isTerminal, Bool.not_true, Bool.false_eq_true, if_false, run_bind, run_now,
    run_jobRows, there, run_putJobs, run_pure, reduceCtorEq]
  exact congrArg₂ (fun answer rows => (Except.ok answer, { s with
    supply := s.supply.now.2
    jobs := (⟨rows, false⟩ : Table JobRow) })) held changed

/-- A job that a worker holds is put back, and whatever else it holds. -/
theorem run_releaseWorkerJobs {front back : List JobRow} (rows : s.jobs.rows = front ++ r :: back)
    (there : s.jobs.lost = false) {worker : WorkerToken} (held : r.isHeldBy worker = true) :
    releaseWorkerJobs worker s = (.ok (s.jobs.rows.countP (JobRow.isHeldBy worker)), { s with
      supply := s.supply.now.2
      jobs := ⟨changeAll (JobRow.isHeldBy worker) (JobRow.released s.supply.now.1) front ++
        r.released s.supply.now.1 ::
          changeAll (JobRow.isHeldBy worker) (JobRow.released s.supply.now.1) back, false⟩ }) := by
  have changed (time : Timestamp) : changeAll (JobRow.isHeldBy worker) (JobRow.released time)
      (front ++ r :: back) = changeAll (JobRow.isHeldBy worker) (JobRow.released time) front ++
        r.released time :: changeAll (JobRow.isHeldBy worker) (JobRow.released time) back := by
    simp only [changeAll, List.map_append, List.map_cons, held, if_true]
  simp [releaseWorkerJobs, there, rows, changed, Except.map]

end Store

/-! ## A tick, step by step -/

open Dispatch

/-- The connection after its timer fired, in a phase. -/
def Connection.ticked (now : ℕ) (phase : ConnectionPhase) (c : Connection) : Connection :=
  { c with poll := c.poll.advance now, phase := phase }

namespace Server

variable {s : Server} {c : Connection} {now : ℕ} {written : Bool} {phase : ConnectionPhase}
  {store store' : Store}

/-- One tick of the poll timer: the task claims a job and goes through with it, and if it has
stopped then it gives its jobs back and is gone.  `written` tells whether the line can be
written. -/
def pollOnce (s : Server) (now : ℕ) (c : Connection) (written : Bool) :
    List StreamEvent × Server :=
  let step (s : Server) := s.proceed c.token written
  let (events, s) := andThen (andThen (andThen (s.firePoll now c) step) step) step
  (events, s.finish c.token)

/-- **When the poll timer is due** and lines can be written, the server does one tick. -/
theorem beatPoll_of_isDue (due : c.poll.isDue now = true) :
    s.beatPoll now c = s.pollOnce now c true := by
  simp only [beatPoll, due, if_true, pollOnce, workOff, andThen, List.append_assoc]

/-- **A tick is a run of actions.** -/
theorem byActions_pollOnce (found : s.connection? c.token = some c) (serving : c.phase = .serving)
    (now : ℕ) (written : Bool) : ByActions s (s.pollOnce now c written) := by
  let step (s : Server) := s.proceed c.token written
  have steps (s : Server) : ByActions s (step s) :=
    byActions_act s (a := .proceed c.token written) trivial
  have fire : act s (.poll now c.token) = s.firePoll now c := whenIn_eq found serving
  have claim : ByActions s (s.firePoll now c) := fire ▸ byActions_act s trivial
  have three := ((claim.andThen step (steps _)).andThen step (steps _)).andThen step (steps _)
  have whole := three.andThen (fun s => ([], s.finish c.token)) (byActions_finish _ c.token)
  exact whole.congr (by simp [pollOnce, andThen, step]) rfl

/-- The server during a tick: the timer has fired, and the task stands in a phase. -/
def ticking (s : Server) (now : ℕ) (c : Connection) (phase : ConnectionPhase) (store : Store) :
    Server :=
  (⟨store, s.dispatcher⟩ : Server).updateConnection c.token (Connection.ticked now phase)

/-- During a tick a later phase takes the place of the one before. -/
theorem turn_ticking (phase' : ConnectionPhase) :
    (⟨store', (s.ticking now c phase store).dispatcher⟩ : Server).turn c.token phase' =
      s.ticking now c phase' store' :=
  updateConnection_updateConnection (g := Connection.ticked now phase) (fun _ => rfl)
    ⟨store', s.dispatcher⟩ c.token

/-- During a tick the task is the one whose timer fired, in its phase. -/
theorem connection?_ticking (found : s.connection? c.token = some c) :
    (s.ticking now c phase store).connection? c.token = some (c.ticked now phase) := by
  have same : (⟨store, s.dispatcher⟩ : Server).connection? c.token = some c := found
  rw [ticking, connection?_updateConnection (Connection.ticked now phase) fun _ => rfl, same]
  rfl

/-- During a tick the task stands in the phase that it has come to. -/
theorem phase?_ticking (found : s.connection? c.token = some c) :
    (s.ticking now c phase store).phase? c.token = some phase := by
  rw [phase?, connection?_ticking found]
  rfl

/-- The task claims a job. -/
theorem firePoll_eq {answer : Except Error (Option Job)}
    (run : Store.claimNext s.dispatcher.token c.token c.modules s.store = (answer, store)) :
    s.firePoll now c = (seen c.token (afterClaim answer),
      s.ticking now c (afterClaim answer) store) := by
  let advanced (c : Connection) : Connection := { c with poll := c.poll.advance now }
  rw [firePoll, await_eq (s := s.updateConnection c.token advanced) run]
  exact congrArg (Prod.mk _) (updateConnection_updateConnection (g := advanced) (fun _ => rfl)
    ⟨store, s.dispatcher⟩ c.token)

/-- The task waits for an answer. -/
theorem await_ticking {α : Type} {op : StoreM α} {answer : Except Error α}
    (run : op store = (answer, store')) (next : Except Error α → ConnectionPhase) :
    (s.ticking now c phase store).await c.token op next =
      (seen c.token (next answer), s.ticking now c (next answer) store') := by
  rw [await_eq (s := s.ticking now c phase store) run, turn_ticking]

section Steps

variable {job : Job} (found : s.connection? c.token = some c)
include found

/-- The case of the job is looked up first, and decides how the tick goes on. -/
theorem proceed_ticking_case {answer : Except Error Case}
    (run : Store.getCase job.caseId store = (answer, store')) :
    let next := afterLookUp job.id (fun x => .describing job (some x)) answer
    (s.ticking now c (.describing job none) store).proceed c.token written =
      (seen c.token next, s.ticking now c next store') := by
  intro next
  rw [proceed, connection?_ticking found]
  exact await_ticking run _

/-- With the case at hand the item is looked up, and then there is a line to write. -/
theorem proceed_ticking_evidence {case : Case} {answer : Except Error Evidence}
    (run : Store.getEvidence job.caseId job.evidenceId store = (answer, store')) :
    let next := afterLookUp job.id (fun x => .writing (.ofJob job c.token case x)) answer
    (s.ticking now c (.describing job (some case)) store).proceed c.token written =
      (seen c.token next, s.ticking now c next store') := by
  intro next
  rw [proceed, connection?_ticking found]
  exact await_ticking run _

/-- The task fails its job, and serves again. -/
theorem proceed_ticking_failing {front back : List JobRow} {row : JobRow}
    (rows : store.jobs.rows = front ++ row :: back) (keyed : Keyed (front ++ row :: back))
    (there : store.jobs.lost = false) (running : row.status = .running) {id : JobId}
    (own : id = row.id) (what : String) :
    (s.ticking now c (.failing id what) store).proceed c.token written =
      ([], s.ticking now c .serving { store with
        supply := store.supply.now.2
        jobs := ⟨front ++ row.finished .failed (what ++ " no longer exists") store.supply.now.1 ::
          back, false⟩ }) := by
  subst own
  rw [proceed, connection?_ticking found]
  exact await_ticking (Store.run_ack_failed rows keyed there running _) afterFailing

/-- The line is written and the task waits again, or the stream is over. -/
theorem proceed_ticking_writing {d : JobDescriptor} :
    (s.ticking now c (.writing d) store).proceed c.token written =
      if written then ([.line c.token d], s.ticking now c .serving store)
      else ([.closed c.token], s.ticking now c .leaving store) := by
  rw [proceed, connection?_ticking found]
  simp only [Option.map_some, write, leave]
  cases written with
  | true => exact congrArg (Prod.mk _) (turn_ticking .serving)
  | false => exact congrArg (Prod.mk _) (turn_ticking .leaving)

/-- A task that waits has nothing to go on with. -/
theorem proceed_ticking_serving :
    (s.ticking now c .serving store).proceed c.token written =
      ([], s.ticking now c .serving store) :=
  proceed_serving (phase?_ticking found) written

/-- A task that waits is not finished. -/
theorem finish_ticking_serving :
    (s.ticking now c .serving store).finish c.token = s.ticking now c .serving store :=
  finish_serving (phase?_ticking found)

/-- A task that has stopped gives its jobs back and is gone. -/
theorem finish_ticking_leaving {answer : Except Error Nat}
    (run : Store.releaseWorkerJobs c.token store = (answer, store')) :
    (s.ticking now c .leaving store).finish c.token =
      (s.ticking now c .released store').forget c.token := by
  have same : (s.ticking now c .leaving store).onStore (Dispatcher.reclaimWorkerJobs c.token) =
      (answer, ⟨store', (s.ticking now c .leaving store).dispatcher⟩) := by
    have there : (s.ticking now c .leaving store).store = store := rfl
    simp only [onStore, Dispatcher.reclaimWorkerJobs, there, run]
  rw [finish, connection?_ticking found]
  simp only [release, same, turn_ticking]
  exact if_pos rfl

end Steps

/-- A tick is a claim and up to three steps, and its events are theirs in order. -/
theorem pollOnce_eq {e₀ e₁ e₂ e₃ : List StreamEvent} {s₀ s₁ s₂ s₃ s₄ : Server}
    (claim : s.firePoll now c = (e₀, s₀)) (first : s₀.proceed c.token written = (e₁, s₁))
    (second : s₁.proceed c.token written = (e₂, s₂))
    (third : s₂.proceed c.token written = (e₃, s₃)) (finish : s₃.finish c.token = s₄) :
    s.pollOnce now c written = (e₀ ++ e₁ ++ e₂ ++ e₃, s₄) := by
  simp only [pollOnce, andThen, claim, first, second, third, finish]

/-! ## The connection after a tick -/

/-- The connection goes on: it waits for its next tick. -/
structure GoesOn (s : Server) (now : ℕ) (c : Connection) (s' : Server) : Prop where
  own : s'.connection? c.token = some { c with poll := c.poll.advance now }
  others : ∀ worker, worker ≠ c.token → s'.connection? worker = s.connection? worker
  sessions : s'.dispatcher.sessions = s.dispatcher.sessions

/-- The connection is over, and so is its session. -/
structure Ended (s : Server) (c : Connection) (s' : Server) : Prop where
  own : s'.connection? c.token = none
  others : ∀ worker, worker ≠ c.token → s'.connection? worker = s.connection? worker
  sessions : s'.dispatcher.sessions = s.dispatcher.sessions.without c.token

/-- A tick of one task leaves the others as they are. -/
theorem connection?_ticking_of_ne {worker : WorkerToken} (other : worker ≠ c.token) :
    (s.ticking now c phase store).connection? worker = s.connection? worker :=
  connection?_updateConnection_of_ne (f := Connection.ticked now phase) (fun _ => rfl)
    ⟨store, s.dispatcher⟩ other

/-- A task that waits again at the end of its tick goes on. -/
theorem goesOn_ticking (found : s.connection? c.token = some c) (serving : c.phase = .serving)
    (store : Store) : s.GoesOn now c (s.ticking now c .serving store) := by
  refine ⟨?_, fun worker other => connection?_ticking_of_ne other, rfl⟩
  rw [connection?_ticking found, Connection.ticked, ← serving]

/-- A worker that is forgotten has no task. -/
theorem connection?_forget_self (s : Server) (token : WorkerToken) :
    (s.forget token).connection? token = none := by
  refine List.find?_eq_none.2 fun c member => ?_
  have other := (List.mem_filter.1 member).2
  simpa using other

/-- When one worker is forgotten, the tasks of the others stay. -/
theorem connection?_forget_of_ne (s : Server) {token worker : WorkerToken}
    (other : worker ≠ token) : (s.forget token).connection? worker = s.connection? worker := by
  rw [connection?, forget, List.find?_filter]
  refine congrArg (List.find? · s.dispatcher.connections) (funext fun c => ?_)
  by_cases own : c.token = worker
  · simp [own, other]
  · simp [own]

/-- A task that is forgotten at the end of its tick is over, and so is its session. -/
theorem ended_forget (s : Server) (now : ℕ) (c : Connection) (store : Store) :
    s.Ended c ((s.ticking now c .released store).forget c.token) := by
  refine ⟨connection?_forget_self _ _, fun worker other => ?_, rfl⟩
  rw [connection?_forget_of_ne _ other, connection?_ticking_of_ne other]

/-! ## What a tick comes to -/

/-- The row of the job that was queued first among those that wait for one of the modules. -/
structure Oldest (modules : List String) (rows front : List JobRow) (r : JobRow)
    (back : List JobRow) : Prop where
  rows : rows = front ++ r :: back
  older : ∀ x ∈ front, ¬Queue.WaitsFor modules x
  waits : Queue.WaitsFor modules r

/-- **What a tick comes to:** no job waits; or the oldest that waits is failed, for a record is
missing; or its line is written, and it runs; or its line cannot be written, and it waits again, as
does all else that the worker held. -/
inductive Polled (s : Server) (now : ℕ) (c : Connection) :
    Bool → List StreamEvent × Server → Prop where
  | nothing {written : Bool} {s' : Server} {supply : Supply}
      (nobody : ∀ r ∈ s.store.jobs.rows, ¬Queue.WaitsFor c.modules r)
      (store : s'.store = { s.store with supply := supply })
      (on : s.GoesOn now c s') : Polled s now c written ([], s')
  | missing {written : Bool} {s' : Server} {front back : List JobRow} {r : JobRow} {what : String}
      {time : Timestamp} {supply : Supply}
      (oldest : Oldest c.modules s.store.jobs.rows front r back) (gone : s.store.Missing r what)
      (store : s'.store = { s.store with
        jobs := ⟨front ++ { r with
          status := .failed, error := what ++ " no longer exists", workerToken := c.token,
          serverToken := s.dispatcher.token, updatedAt? := some time } :: back, false⟩
        supply := supply })
      (on : s.GoesOn now c s') : Polled s now c written ([], s')
  | handed {s' : Server} {front back : List JobRow} {r : JobRow} {case : Case} {item : Evidence}
      {time : Timestamp} {supply : Supply}
      (oldest : Oldest c.modules s.store.jobs.rows front r back)
      (there : s.store.Present r case item)
      (store : s'.store = { s.store with
        jobs := ⟨front ++ { r with
          status := .running, workerToken := c.token, serverToken := s.dispatcher.token,
          updatedAt? := some time } :: back, false⟩
        supply := supply })
      (on : s.GoesOn now c s') :
      Polled s now c true
        ([.line c.token ⟨r.id, c.token, r.moduleName, some case, some item⟩], s')
  | broken {s' : Server} {front back : List JobRow} {r : JobRow} {case : Case} {item : Evidence}
      {time : Timestamp} {supply : Supply}
      (oldest : Oldest c.modules s.store.jobs.rows front r back)
      (there : s.store.Present r case item)
      (store : s'.store = { s.store with
        jobs := ⟨changeAll (JobRow.isHeldBy c.token) (JobRow.released time) front ++ { r with
          status := .scheduled, workerToken := "", serverToken := s.dispatcher.token,
          updatedAt? := some time } ::
            changeAll (JobRow.isHeldBy c.token) (JobRow.released time) back, false⟩
        supply := supply })
      (ended : s.Ended c s') : Polled s now c false ([.closed c.token], s')

/-- What a tick comes to when a job was claimed. -/
theorem polled_of_claim {front back : List JobRow} {r : JobRow} {time : Timestamp} {job : Job}
    {supply : Supply} (found : s.connection? c.token = some c) (serving : c.phase = .serving)
    (answers : s.store.Answers) (keyed : Keyed s.store.jobs.rows)
    (oldest : Oldest c.modules s.store.jobs.rows front r back)
    (read : (r.claimed c.token s.dispatcher.token time).job? = some job)
    (claim : Store.claimNext s.dispatcher.token c.token c.modules s.store =
      (.ok (some job), { s.store with
        jobs := ⟨front ++ r.claimed c.token s.dispatcher.token time :: back, false⟩
        supply := supply })) (now : ℕ) (written : Bool) :
    Polled s now c written (s.pollOnce now c written) := by
  obtain ⟨id, caseId, evidenceId, moduleName, -, -⟩ := JobRow.of_job? read
  let row := r.claimed c.token s.dispatcher.token time
  let held : Store := { s.store with jobs := ⟨front ++ row :: back, false⟩, supply := supply }
  have keyed' : Keyed (front ++ row :: back) := by
    rw [oldest.rows] at keyed
    simpa [Keyed, row, JobRow.claimed] using keyed
  have claimed : s.firePoll now c = ([], s.ticking now c (.describing job none) held) :=
    firePoll_eq claim
  have fail (what : String) :
      (s.ticking now c (.failing job.id what) held).proceed c.token written =
        ([], s.ticking now c .serving _) :=
    proceed_ticking_failing found rfl keyed' rfl rfl id what
  obtain ⟨gone, looked⟩ | ⟨case, looked, item?⟩ := Store.lookUp_cases answers r held rfl rfl
  · have first : (s.ticking now c (.describing job none) held).proceed c.token written =
        ([], s.ticking now c (.failing job.id ("case " ++ r.caseId)) held) :=
      proceed_ticking_case found (by rw [caseId]; exact looked)
    rw [pollOnce_eq claimed first (fail _) (proceed_ticking_serving found)
      (finish_ticking_serving found)]
    exact .missing oldest gone rfl (goesOn_ticking found serving _)
  have first : (s.ticking now c (.describing job none) held).proceed c.token written =
      ([], s.ticking now c (.describing job (some case)) held) :=
    proceed_ticking_case found (by rw [caseId]; exact looked)
  obtain ⟨gone, looked'⟩ | ⟨item, looked', there⟩ := item?
  · have second : (s.ticking now c (.describing job (some case)) held).proceed c.token written =
        ([], s.ticking now c (.failing job.id
          ("evidence " ++ r.evidenceId ++ " in case " ++ r.caseId)) held) :=
      proceed_ticking_evidence found (by rw [caseId, evidenceId]; exact looked')
    rw [pollOnce_eq claimed first second (fail _) (finish_ticking_serving found)]
    exact .missing oldest gone rfl (goesOn_ticking found serving _)
  let line : JobDescriptor := ⟨r.id, c.token, r.moduleName, some case, some item⟩
  have described : JobDescriptor.ofJob job c.token case item = line := by
    rw [JobDescriptor.ofJob, id, moduleName]
    rfl
  have second : (s.ticking now c (.describing job (some case)) held).proceed c.token written =
      ([], s.ticking now c (.writing line) held) := by
    rw [← described]
    exact proceed_ticking_evidence found (by rw [caseId, evidenceId]; exact looked')
  cases written with
  | true =>
    have third : (s.ticking now c (.writing line) held).proceed c.token true =
        ([.line c.token line], s.ticking now c .serving held) := proceed_ticking_writing found
    rw [pollOnce_eq claimed first second third (finish_ticking_serving found)]
    exact .handed oldest there rfl (goesOn_ticking found serving _)
  | false =>
    have third : (s.ticking now c (.writing line) held).proceed c.token false =
        ([.closed c.token], s.ticking now c .leaving held) := proceed_ticking_writing found
    have released : Store.releaseWorkerJobs c.token held = _ :=
      Store.run_releaseWorkerJobs rfl rfl (JobRow.isHeldBy_iff.2 ⟨rfl, rfl⟩)
    rw [pollOnce_eq claimed first second third (finish_ticking_leaving found released)]
    exact .broken oldest there rfl (ended_forget s now c _)

/-- **Every tick comes to one of these,** whatever is on record, for whatever connection waits for
its timers, and whether its line can be written or not.  The names under which a connection claims
jobs were looked at when the worker connected (`Dispatcher.Named`), and between two operations every
connection waits for its timers (`Settled`). -/
theorem polled (found : s.connection? c.token = some c) (serving : c.phase = .serving)
    (named : AllNamed c.modules) (answers : s.store.Answers) (keyed : Keyed s.store.jobs.rows)
    (now : ℕ) (written : Bool) : Polled s now c written (s.pollOnce now c written) := by
  have claim := Queue.claimNext_claimsOldest answers.readable answers.jobs
    (checkModuleNames_eq_ok_iff.2 named) s.dispatcher.token c.token
  rcases run : Store.claimNext s.dispatcher.token c.token c.modules s.store with ⟨answer, store⟩
  rw [run] at claim
  cases claim with
  | nothing nobody =>
    rw [pollOnce_eq (firePoll_eq run) (proceed_ticking_serving found)
      (proceed_ticking_serving found) (proceed_ticking_serving found)
      (finish_ticking_serving found)]
    exact .nothing nobody rfl (goesOn_ticking found serving _)
  | handed rows older waits taken read =>
    subst taken
    rw [answers.jobs] at run
    exact polled_of_claim found serving answers keyed ⟨rows, older, waits⟩ read run now written

/-- The lone job is handed out at the first tick, and waits again if its line cannot be written. -/
theorem polled_lone :
    let c : Connection := ⟨"worker", ["Hayabusa"], ⟨1000, 0⟩, ⟨60000, 60000⟩, .serving⟩
    let s : Server := ⟨lone, { token := "server", registry := {}, connections := [c] }⟩
    Polled s 0 c true (s.pollOnce 0 c true) ∧ Polled s 0 c false (s.pollOnce 0 c false) ∧
      (s.pollOnce 0 c true).1 =
        [.line "worker" ⟨"job", "worker", "Hayabusa", some loneCase, some loneItem⟩] ∧
      (s.pollOnce 0 c false).2.store.jobs.rows.map JobRow.status = [.scheduled] := by
  intro c s
  have answers : s.store.Answers := ⟨rfl, rfl, rfl, by decide⟩
  have named : AllNamed c.modules := List.forall_mem_singleton.2 (by decide)
  have every (written : Bool) := polled (s := s) (c := c) rfl rfl named answers keyed_lone 0 written
  exact ⟨every true, every false, by decide +kernel, by decide +kernel⟩

end Server
end Casework
