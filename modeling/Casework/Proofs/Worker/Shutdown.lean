/-
# How a worker shuts down

A worker with one stream, the server that it has the stream from, and what is on its way between
them make a `Shift`.  They take turns in any order (`Turn`): everything that goes on at the server,
lines that are read, tasks of the worker, their reports, and the worker's end, whenever it is told.

| turn | possible |
| --- | --- |
| `server a` | if the jobs stay in reach, and the stream stays as long as the worker has it |
| `read` | if a line is on its way and the worker reads |
| `arrive i` | if the task sends its report, which has not arrived |
| `worker a` | if the step does not touch the stream; a task is done once its report has arrived |

So a request with a report comes back when the server has had it, and what the server makes of the
request is that turn (`Http.serve_ackRequest`).  The worker has its stream until every task is done
(`drops_stream_last`).  As long as it has, the task of the stream serves and gives nothing back; so
a job that was read still runs when its report arrives (`Kept.runs`), and the report is taken.  Once
the worker has stopped and the task is at its end, a job that was claimed for the worker and not
read was given back (`Kept.unread`).  Both do come to their end, the worker when it was told to
(`comes_to_stop`, `comes_to_end`).
-/

import Casework.Proofs.Dispatch.Fates
import Casework.Proofs.Http.Reporting
import Casework.Proofs.Worker.Accounting

namespace Casework

open Dispatch (Moment GaveBack RunsUnder Reported Fates Ended linesTo moment)

/-- The jobs get out of reach. -/
def Dispatch.Action.losesJobs : Dispatch.Action → Bool
  | .reach .jobs lost => lost
  | _ => false

/-- The task of a worker stops by itself. -/
def Dispatch.Action.leaves (worker : WorkerToken) : Dispatch.Action → Bool
  | .leave other => other == worker
  | _ => false

/-- The reports that arrive. -/
def Dispatch.Action.reports : Dispatch.Action → List AckRequest
  | .request (.ack report) => [report]
  | _ => []

namespace Worker

/-- The step is one inside the worker, and not one on its stream. -/
def Action.isInside : Action → Bool
  | .opened => false
  | .receive _ => false
  | .streamEnded => false
  | _ => true

/-- The report that the task at a place sends. -/
def sending? (w : Worker) (i : ℕ) : Option AckRequest :=
  match w.tasks[i]? with
  | some ⟨_, .reporting report⟩ => some report
  | _ => none

end Worker

/-- A worker with a stream, the server that the stream is from, and what is between them. -/
structure Shift where
  server : Server
  worker : Worker
  /-- The lines that were written and not read. -/
  unread : List JobDescriptor := []
  /-- The tasks whose reports have arrived. -/
  answered : List ℕ := []
  /-- The reports of others that have arrived. -/
  others : List AckRequest := []
  /-- What has happened at the server. -/
  past : List Moment := []

/-- A turn of the worker, of the server, or of something between them. -/
inductive Turn where
  | server (a : Dispatch.Action)
  | read
  | arrive (i : ℕ)
  | worker (a : Worker.Action)

namespace Shift

/-- Something happens at the server. -/
def acted (token : WorkerToken) (a : Dispatch.Action) (x : Shift) : Shift :=
  { x with
    server := (Dispatch.act x.server a).2
    unread := x.unread ++ linesTo token [moment x.server a]
    past := x.past ++ [moment x.server a] }

/-- An action would end the stream of the worker. -/
def breaks (token : WorkerToken) (a : Dispatch.Action) (x : Shift) : Bool :=
  a.leaves token || (Dispatch.act x.server a).1.contains (.closed token)

/-- The worker may take a step by itself: a task is done once its report has arrived. -/
def allows (x : Shift) : Worker.Action → Bool
  | .settle i => i ∈ x.answered
  | a => a.isInside

/-- The shift after a turn, if the turn is possible. -/
def take? (token : WorkerToken) (x : Shift) : Turn → Option Shift
  | .server a =>
    if a.losesJobs = true ∨ x.worker.hasStream = true ∧ x.breaks token a = true then none
    else some { x.acted token a with others := x.others ++ a.reports }
  | .read =>
    match x.unread with
    | [] => none
    | d :: rest => (x.worker.receive d).map fun w => { x with worker := w, unread := rest }
  | .arrive i =>
    match x.worker.sending? i with
    | none => none
    | some report =>
      if i ∈ x.answered then none
      else some { x.acted token (.request (.ack report)) with answered := i :: x.answered }
  | .worker a =>
    if x.allows a then (x.worker.act? a).map fun w => { x with worker := w } else none

/-- Turns, one after the other. -/
def follow (token : WorkerToken) : List Turn → Shift → Option Shift
  | [], x => some x
  | turn :: turns, x => (x.take? token turn).bind (follow token turns)

/-- Turns after turns are taken one after the other. -/
theorem follow_append {token : WorkerToken} (turns more : List Turn) (x : Shift) :
    follow token (turns ++ more) x = (follow token turns x).bind (follow token more) := by
  induction turns generalizing x with
  | nil => rfl
  | cons turn turns ih =>
    rw [List.cons_append, follow, follow, Option.bind_assoc]
    exact congrArg _ (funext ih)

/-- What a turn can do. -/
inductive Step (token : WorkerToken) (x : Shift) : Shift → Prop where
  | acts (a : Dispatch.Action) (ne : a ≠ .reach .jobs true)
      (stays : x.worker.hasStream = true →
        a ≠ .leave token ∧ .closed token ∉ (Dispatch.act x.server a).1) :
      Step token x { x.acted token a with others := x.others ++ a.reports }
  | arrives {i : ℕ} {t : WorkerTask} {report : AckRequest} (found : x.worker.tasks[i]? = some t)
      (sends : t.stage = .reporting report) (new : i ∉ x.answered) :
      Step token x { x.acted token (.request (.ack report)) with answered := i :: x.answered }
  | reads {d : JobDescriptor} {rest : List JobDescriptor} {w : Worker} (next : x.unread = d :: rest)
      (went : x.worker.act? (.receive d) = some w) :
      Step token x { x with worker := w, unread := rest }
  | works {a : Worker.Action} {w : Worker} (went : x.worker.act? a = some w)
      (inside : a.isInside = true) (settled : ∀ i, a = .settle i → i ∈ x.answered) :
      Step token x { x with worker := w }

end Shift

variable {token : WorkerToken} {x x' : Shift}

/-! ## One turn -/

/-- A report is being sent if its task reports. -/
theorem Worker.sending?_eq_some_iff {w : Worker} {i : ℕ} {report : AckRequest} :
    w.sending? i = some report ↔ ∃ t, w.tasks[i]? = some t ∧ t.stage = .reporting report := by
  unfold sending?
  cases found : w.tasks[i]? with
  | none => simp
  | some t =>
    rcases t with ⟨d, stage⟩
    cases stage <;> simp

/-- A turn that can be taken is one of the steps. -/
theorem Shift.step_of_take? {turn : Turn} (h : x.take? token turn = some x') :
    Shift.Step token x x' := by
  cases turn with
  | server a =>
    obtain ⟨possible, h⟩ := Option.ite_none_left_eq_some.1 h
    obtain rfl := Option.some.inj h
    rw [not_or, not_and] at possible
    refine .acts a (fun reach => possible.1 (reach ▸ rfl)) fun busy => ?_
    have whole := possible.2 busy
    rw [Shift.breaks, Bool.or_eq_true, not_or] at whole
    refine ⟨fun leave => whole.1 ?_, fun closed => whole.2 (List.contains_iff_mem.2 closed)⟩
    rw [leave]
    exact beq_self_eq_true token
  | read =>
    rw [Shift.take?] at h
    split at h
    next => cases h
    next d rest next =>
      obtain ⟨w, went, rfl⟩ := Option.map_eq_some_iff.1 h
      exact .reads next went
  | arrive i =>
    rw [Shift.take?] at h
    split at h
    next => cases h
    next report sends =>
      obtain ⟨new, h⟩ := Option.ite_none_left_eq_some.1 h
      obtain rfl := Option.some.inj h
      obtain ⟨t, found, stage⟩ := Worker.sending?_eq_some_iff.1 sends
      exact .arrives found stage new
  | worker a =>
    obtain ⟨allowed, h⟩ := Option.ite_none_right_eq_some.1 h
    obtain ⟨w, went, rfl⟩ := Option.map_eq_some_iff.1 h
    refine .works went ?_ ?_
    · cases a with
      | settle i => rfl
      | _ => exact allowed
    · rintro i rfl
      exact of_decide_eq_true allowed

namespace Worker

variable {w w' : Worker} {a : Worker.Action} {events : List Event} {i : ℕ} {t : WorkerTask}
  {report : AckRequest}

/-- A task stays at its place and keeps its job and its report. -/
theorem Step.keeps (h : Step w a events w') (found : w.tasks[i]? = some t) :
    ∃ t', w'.tasks[i]? = some t' ∧ t'.descriptor = t.descriptor ∧
      ∀ report, t.stage.report? = some report → t'.stage.report? = some report := by
  cases h with
  | phase goes => exact ⟨t, found, rfl, fun _ sends => sends⟩
  | lives sign reads => exact ⟨t, found, rfl, fun _ sends => sends⟩
  | arrives real reads =>
    obtain ⟨within, -⟩ := List.getElem?_eq_some_iff.1 found
    exact ⟨t, (List.getElem?_append_left within).trans found, rfl, fun _ sends => sends⟩
  | @task a j t₀ stage events there goes =>
    obtain ⟨within, -⟩ := List.getElem?_eq_some_iff.1 there
    by_cases same : j = i
    · subst same
      obtain rfl := Option.some.inj (there.symm.trans found)
      refine ⟨_, List.getElem?_set_self within, rfl, fun report sends => ?_⟩
      cases goes with
      | begins waits => rw [waits] at sends; cases sends
      | concludes runs => rw [runs] at sends; cases sends
      | settles sent => rw [sent] at sends; exact sends
    · exact ⟨t, (List.getElem?_set_ne same).trans found, rfl, fun _ sends => sends⟩

/-- A task that is done was done before, or it has just been settled. -/
theorem Step.done (h : Step w a events w') (found : w'.tasks[i]? = some t)
    (ended : t.stage = .done report) :
    a = .settle i ∨ ∃ t₀, w.tasks[i]? = some t₀ ∧ t₀.stage = .done report := by
  cases h with
  | phase goes => exact .inr ⟨t, found, ended⟩
  | lives sign reads => exact .inr ⟨t, found, ended⟩
  | arrives real reads =>
    rcases Nat.lt_or_ge i w.tasks.length with within | beyond
    · exact .inr ⟨t, (List.getElem?_append_left within).symm.trans found, ended⟩
    · change (w.tasks ++ _)[i]? = some t at found
      rw [List.getElem?_append_right beyond] at found
      obtain rfl := List.mem_singleton.1 (List.mem_of_getElem? found)
      cases ended
  | @task a j t₀ stage events there goes =>
    obtain ⟨within, -⟩ := List.getElem?_eq_some_iff.1 there
    by_cases same : j = i
    · subst same
      obtain rfl := Option.some.inj ((List.getElem?_set_self within).symm.trans found)
      cases goes with
      | begins => cases ended
      | concludes => cases ended
      | settles => exact .inl rfl
    · exact .inr ⟨t, (List.getElem?_set_ne same).symm.trans found, ended⟩

/-- No step inside a worker opens a stream, or ends one that it reads. -/
theorem Step.phase_of_inside (h : Step w a events w') (inside : a.isInside = true) :
    (w'.hasStream = true → w.hasStream = true) ∧ (w.phase ≠ .idle → w'.phase ≠ .idle) := by
  cases h with
  | phase goes =>
    cases goes with
    | told => exact ⟨id, id⟩
    | opens => cases inside
    | ends => cases inside
    | notices reads => exact ⟨fun _ => by rw [hasStream, reads], fun _ => nofun⟩
    | stops => exact ⟨nofun, fun _ => nofun⟩
  | lives => cases inside
  | arrives => cases inside
  | task found goes => exact ⟨id, id⟩

/-- No line arrives by a step inside the worker. -/
theorem Step.jobs_of_inside (h : Step w a events w') (inside : a.isInside = true) :
    events.filterMap Event.job? = [] := by
  cases h with
  | phase goes => rfl
  | lives => cases inside
  | arrives => cases inside
  | task found goes => exact goes.jobs

/-- The jobs of a worker after a step are those from before and what has arrived. -/
theorem Accounted.descriptors {past : List Event} (h : Accounted past w)
    (went : w.act? a = some w') :
    w'.tasks.map WorkerTask.descriptor =
      w.tasks.map WorkerTask.descriptor ++ (w.seen a).filterMap Event.job? := by
  rw [(h.step went).jobs, h.jobs, List.filterMap_append]

/-- A report is on the job of its task, and tells of its end. -/
theorem Accounted.on_own {past : List Event} (h : Accounted past w)
    (found : w.tasks[i]? = some t) (sends : t.stage.report? = some report) :
    report.id = t.descriptor.id ∧ report.status.isTerminal = true := by
  obtain ⟨outcome, rfl⟩ := h.own t (List.mem_of_getElem? found) report sends
  exact ⟨report_id _ _, by cases w.registry.ending t.descriptor outcome <;> rfl⟩

end Worker

/-! ## The invariant -/

/-- A report of others on a job is among some moments. -/
def Shift.ReportedByOthers (x : Shift) (past : List Moment) (id : JobId) : Prop :=
  ∃ m ∈ past, ∃ other ∈ x.others, m.action = .request (.ack other) ∧ other.id = id

/-- A report has arrived before the worker's task gave anything back.  It was taken, and the job has
ended as it says; or others had reported the job before. -/
def Shift.Arrived (token : WorkerToken) (x : Shift) (report : AckRequest) : Prop :=
  ∃ front m back, x.past = front ++ m :: back ∧ m.action = .request (.ack report) ∧
    (∀ g ∈ front, ∀ id, ¬ g.GivesBack token id) ∧
    (m.Takes report ∧ (∃ r ∈ x.server.store.jobs.rows, r.id = report.id ∧
        r.status = report.status) ∨
      x.ReportedByOthers front report.id)

/-- How the worker, the server, and what is between them hang together. -/
structure Shift.Kept (token : WorkerToken) (x : Shift) : Prop where
  fates : Fates token x.past x.server
  accounted : ∃ events, Worker.Accounted events x.worker
  opened : x.worker.phase ≠ .idle
  /-- The task of the stream serves as long as the worker has it. -/
  serving : x.worker.hasStream = true → ∃ p, x.server.phase? token = some p ∧ p.serves = true
  /-- Until then nothing is given back. -/
  quiet : x.worker.hasStream = true → ∀ m ∈ x.past, ∀ id, ¬ m.GivesBack token id
  /-- The tasks are the jobs that were read. -/
  stream : ∃ read, linesTo token x.past = read ++ x.unread ∧
    x.worker.tasks.map WorkerTask.descriptor = read.filter fun d => !d.isKeepAlive
  reports : ∀ m ∈ x.past, ∀ report, m.action = .request (.ack report) → report ∈ x.others ∨
    ∃ i ∈ x.answered, ∃ t, x.worker.tasks[i]? = some t ∧ t.stage.report? = some report
  arrived : ∀ i ∈ x.answered, ∃ t report, x.worker.tasks[i]? = some t ∧
    t.stage.report? = some report ∧ x.Arrived token report
  done : ∀ i t report, x.worker.tasks[i]? = some t → t.stage = .done report → i ∈ x.answered

namespace Shift

variable {a : Dispatch.Action} {i : ℕ} {t : WorkerTask} {report : AckRequest}

/-- What has arrived stays decided: a job that is over stays as it is. -/
theorem Arrived.acted (sound : Dispatch.Sound x.server) (h : x.Arrived token report)
    (server : x'.server = (Dispatch.act x.server a).2)
    (past : x'.past = x.past ++ [moment x.server a]) (more : ∀ r ∈ x.others, r ∈ x'.others) :
    x'.Arrived token report := by
  obtain ⟨front, m, back, split, arrives, first, decided⟩ := h
  refine ⟨front, m, back ++ [moment x.server a], ?_, arrives, first, ?_⟩
  · rw [past, split, List.append_assoc, List.cons_append]
  · obtain ⟨taken, r, hr, same, status⟩ | ⟨m', hm', other, told, was, same⟩ := decided
    · have ended : r.status.isTerminal = true := status ▸ (Dispatch.ack_taken_iff.1 taken.2).1
      exact .inl ⟨taken, r, server ▸ Dispatch.over_act sound hr ended a, same, status⟩
    · exact .inr ⟨m', hm', other, more other told, was, same⟩

namespace Kept

/-- A task that is not done keeps the worker from giving its stream up. -/
theorem running (h : Kept token x) (found : x.worker.tasks[i]? = some t)
    (undone : t.stage.isDone = false) : x.worker.hasStream = true := by
  refine Worker.hasStream_iff.2 ⟨h.opened, fun stopped => ?_⟩
  obtain ⟨events, accounted⟩ := h.accounted
  have ended := Worker.remaining_eq_zero_iff.1 (accounted.stopped stopped) t
    (List.mem_of_getElem? found)
  rw [undone] at ended
  cases ended

/-- The job of a task was handed to the worker. -/
theorem handed (h : Kept token x) (found : x.worker.tasks[i]? = some t) :
    ∃ m ∈ x.past, m.Hands token t.descriptor.id := by
  obtain ⟨read, lines, tasks⟩ := h.stream
  have among : t.descriptor ∈ read.filter fun d => !d.isKeepAlive :=
    tasks ▸ List.mem_map_of_mem (List.mem_of_getElem? found)
  obtain ⟨among, real⟩ := List.mem_filter.1 among
  have line : t.descriptor ∈ linesTo token x.past := lines ▸ List.mem_append_left _ among
  obtain life | job := h.fates.lines _ line
  · rw [life] at real
    cases real
  · exact Dispatch.hands_of_mem_linesTo line job

/-- No two tasks have one job. -/
theorem single (h : Kept token x) {j : ℕ} {t' : WorkerTask}
    (found : x.worker.tasks[i]? = some t) (found' : x.worker.tasks[j]? = some t')
    (same : t.descriptor.id = t'.descriptor.id) : i = j := by
  obtain ⟨read, lines, tasks⟩ := h.stream
  have jobs : ∀ d ∈ read.filter fun d => !d.isKeepAlive, d.case?.isSome = true := by
    intro d hd
    obtain ⟨among, real⟩ := List.mem_filter.1 hd
    obtain rfl | job := h.fates.lines d (lines ▸ List.mem_append_left _ among)
    · cases real
    · exact job
  have part : List.Sublist (x.worker.tasks.map WorkerTask.descriptor)
      ((linesTo token x.past).filter fun d => d.case?.isSome) := by
    rw [tasks, ← List.filter_eq_self.2 jobs, lines]
    exact (List.filter_sublist.trans (List.sublist_append_left _ _)).filter _
  have nodup : (x.worker.tasks.map fun t => t.descriptor.id).Nodup := by
    have := h.fates.distinct.sublist (part.map JobDescriptor.id)
    rwa [List.map_map] at this
  have within : i < (x.worker.tasks.map fun t => t.descriptor.id).length := by
    rw [List.length_map]
    exact (List.getElem?_eq_some_iff.1 found).1
  refine (List.getElem?_inj within nodup).1 ?_
  rw [List.getElem?_map, List.getElem?_map, found, found', Option.map_some, Option.map_some, same]

/-- **A job whose report is on its way still runs** under the worker, or others have reported
it. -/
theorem runs (h : Kept token x) (found : x.worker.tasks[i]? = some t)
    (sends : t.stage = .reporting report) (new : i ∉ x.answered) :
    RunsUnder x.server.store.jobs.rows token report.id ∨ x.ReportedByOthers x.past report.id := by
  obtain ⟨events, accounted⟩ := h.accounted
  obtain ⟨own, -⟩ := accounted.on_own found (by rw [sends]; rfl)
  obtain ⟨m, hm, hands⟩ := h.handed found
  rw [← own] at hands
  obtain runs | ⟨m', hm', other, arrives, same⟩ | ⟨g, hg, given⟩ := h.fates.handed m hm _ hands
  · exact .inl runs
  · obtain told | ⟨j, answered, t', found', sent⟩ := h.reports m' hm' other arrives
    · exact .inr ⟨m', hm', other, told, arrives, same⟩
    · -- a report of the worker's own would be that of this task, which has not arrived
      obtain ⟨own', -⟩ := accounted.on_own found' sent
      obtain rfl := h.single found found' (own.symm.trans (same.symm.trans own'))
      exact absurd answered new
  · exact absurd given (h.quiet (h.running found (by rw [sends]; rfl)) g hg _)

/-- **A report that arrives** is taken, or others have reported its job. -/
theorem arrives (h : Kept token x) (found : x.worker.tasks[i]? = some t)
    (sends : t.stage = .reporting report) (new : i ∉ x.answered) (answered : List ℕ) :
    Arrived token { x.acted token (.request (.ack report)) with answered := answered } report := by
  obtain ⟨events, accounted⟩ := h.accounted
  obtain ⟨-, terminal⟩ := accounted.on_own found (by rw [sends]; rfl)
  have first := h.quiet (h.running found (by rw [sends]; rfl))
  refine ⟨x.past, moment x.server (.request (.ack report)), [], rfl, rfl, first, ?_⟩
  obtain runs | told := h.runs found sends new
  · have taken : (Dispatcher.ack report x.server.store).1 = .ok true :=
      Dispatch.ack_taken_iff.2 ⟨terminal, h.fates.owned.there, token, runs⟩
    obtain ⟨r, hr, same, running, -⟩ := runs
    obtain ⟨r', hr', job, status, -⟩ := Dispatch.ack_finishes taken hr same running
    refine .inl ⟨⟨rfl, taken⟩, r', ?_, job.id.trans same, status⟩
    rw [← Dispatch.moment_ack_after] at hr'
    exact hr'
  · exact .inr told

/-! ## Every turn -/

/-- What happens at the server keeps the invariant, if what has arrived is noted. -/
theorem acts (h : Kept token x) (ne : a ≠ .reach .jobs true)
    (stays : x.worker.hasStream = true →
      a ≠ .leave token ∧ .closed token ∉ (Dispatch.act x.server a).1)
    {answered : List ℕ} {others : List AckRequest} (grows : ∀ i ∈ x.answered, i ∈ answered)
    (more : ∀ r ∈ x.others, r ∈ others)
    (noted : ∀ report, a = .request (.ack report) → report ∈ others ∨
      ∃ i ∈ answered, ∃ t, x.worker.tasks[i]? = some t ∧ t.stage.report? = some report)
    (arrived : ∀ i ∈ answered, i ∉ x.answered → ∃ t report, x.worker.tasks[i]? = some t ∧
      t.stage.report? = some report ∧
        Arrived token { x.acted token a with answered := answered, others := others } report) :
    Kept token { x.acted token a with answered := answered, others := others } where
  fates := h.fates.act ne
  accounted := h.accounted
  opened := h.opened
  serving := fun busy => by
    obtain ⟨p, phase, serves⟩ := h.serving busy
    obtain ⟨stays, silent⟩ := stays busy
    exact Dispatch.serves_act phase serves stays silent
  quiet := fun busy => by
    refine List.forall_mem_append.2 ⟨h.quiet busy, List.forall_mem_singleton.2 fun id given => ?_⟩
    obtain ⟨p, phase, serves⟩ := h.serving busy
    obtain rfl := Option.some.inj (phase.symm.trans given.stopped)
    cases serves
  stream := by
    obtain ⟨read, lines, tasks⟩ := h.stream
    refine ⟨read, ?_, tasks⟩
    change linesTo token (x.past ++ _) = read ++ (x.unread ++ _)
    rw [Dispatch.linesTo_append, lines, List.append_assoc]
  reports := by
    refine List.forall_mem_append.2 ⟨fun m hm report acks => ?_,
      List.forall_mem_singleton.2 noted⟩
    obtain told | ⟨i, hi, own⟩ := h.reports m hm report acks
    · exact .inl (more report told)
    · exact .inr ⟨i, grows i hi, own⟩
  arrived := fun i hi => by
    by_cases old : i ∈ x.answered
    · obtain ⟨t, report, found, sent, was⟩ := h.arrived i old
      exact ⟨t, report, found, sent, was.acted h.fates.owned.sound rfl rfl more⟩
    · exact arrived i hi old
  done := fun i t report found ended => grows i (h.done i t report found ended)

/-- A step of the worker keeps the invariant, if the tasks are the jobs that were read. -/
theorem works (h : Kept token x) {a : Worker.Action} {w : Worker} {unread : List JobDescriptor}
    (went : x.worker.act? a = some w)
    (phase : (w.hasStream = true → x.worker.hasStream = true) ∧ w.phase ≠ .idle)
    (settled : ∀ i, a = .settle i → i ∈ x.answered)
    (stream : ∃ read, linesTo token x.past = read ++ unread ∧
      w.tasks.map WorkerTask.descriptor = read.filter fun d => !d.isKeepAlive) :
    Kept token { x with worker := w, unread := unread } := by
  have step := Worker.step_of_act? went
  have keeps {i : ℕ} {t : WorkerTask} {report : AckRequest}
      (found : x.worker.tasks[i]? = some t) (sent : t.stage.report? = some report) :
      ∃ t, w.tasks[i]? = some t ∧ t.stage.report? = some report := by
    obtain ⟨t', found', -, keeps⟩ := step.keeps found
    exact ⟨t', found', keeps report sent⟩
  obtain ⟨events, accounted⟩ := h.accounted
  exact {
    fates := h.fates
    accounted := ⟨_, accounted.step went⟩
    opened := phase.2
    serving := fun busy => h.serving (phase.1 busy)
    quiet := fun busy => h.quiet (phase.1 busy)
    stream := stream
    reports := fun m hm report acks => by
      obtain told | ⟨i, hi, t, found, sent⟩ := h.reports m hm report acks
      · exact .inl told
      · exact .inr ⟨i, hi, keeps found sent⟩
    arrived := fun i hi => by
      obtain ⟨t, report, found, sent, was⟩ := h.arrived i hi
      obtain ⟨t', found', sent'⟩ := keeps found sent
      exact ⟨t', report, found', sent', was⟩
    done := fun i t report found ended => by
      obtain rfl | ⟨t₀, found₀, ended₀⟩ := step.done found ended
      · exact settled i rfl
      · exact h.done i t₀ report found₀ ended₀ }

/-- **Every turn keeps the invariant.** -/
theorem step (h : Kept token x) (went : Shift.Step token x x') : Kept token x' := by
  cases went with
  | acts a ne stays =>
    refine h.acts ne stays (fun i hi => hi) (fun r hr => List.mem_append_left _ hr) ?_ ?_
    · rintro report rfl
      exact .inl (List.mem_append_right _ (List.mem_singleton_self report))
    · exact fun i hi new => absurd hi new
  | @arrives i t report found sends new =>
    refine h.acts (a := .request (.ack report)) nofun (fun _ => ⟨nofun, ?_⟩)
      (fun j hj => List.mem_cons_of_mem i hj) (fun r hr => hr) ?_ ?_
    · exact fun closed => absurd closed List.not_mem_nil
    · intro _ same
      obtain rfl := Dispatch.Statement.ack.inj (Dispatch.Action.request.inj same)
      exact .inr ⟨i, List.mem_cons_self, t, found, by rw [sends]; rfl⟩
    · intro j hj other
      obtain rfl := (List.mem_cons.1 hj).resolve_right other
      exact ⟨t, report, found, by rw [sends]; rfl, h.arrives found sends new _⟩
  | @reads d rest w next went =>
    obtain ⟨events, accounted⟩ := h.accounted
    obtain ⟨read, lines, tasks⟩ := h.stream
    have phase : x.worker.phase = .reading ∧ w.phase = .reading := by
      have step := Worker.step_of_act? went
      generalize x.worker.seen (.receive d) = seen at step
      cases step with
      | phase goes => cases goes
      | lives sign reads => exact ⟨reads, reads⟩
      | arrives real reads => exact ⟨reads, reads⟩
      | task found goes => cases goes
    refine h.works went ⟨fun _ => by rw [Worker.hasStream, phase.1], by rw [phase.2]; exact nofun⟩
      nofun ⟨read ++ [d], ?_, ?_⟩
    · rw [lines, next, List.append_assoc, List.singleton_append]
    · rw [accounted.descriptors went, tasks, List.filter_append]
      cases sign : d.isKeepAlive <;> simp [Worker.seen, Worker.Event.job?, sign]
  | @works a w went inside settled =>
    obtain ⟨events, accounted⟩ := h.accounted
    obtain ⟨read, lines, tasks⟩ := h.stream
    have step := Worker.step_of_act? went
    obtain ⟨stopped, idle⟩ := step.phase_of_inside inside
    refine h.works went ⟨stopped, idle h.opened⟩ settled ⟨read, lines, ?_⟩
    rw [accounted.descriptors went, step.jobs_of_inside inside, List.append_nil, tasks]

/-- **Every run keeps the invariant.** -/
theorem follow {turns : List Turn} (h : Kept token x)
    (went : Shift.follow token turns x = some x') : Kept token x' := by
  induction turns generalizing x with
  | nil => exact Option.some.inj went ▸ h
  | cons turn turns ih =>
    obtain ⟨next, first, rest⟩ := Option.bind_eq_some_iff.1 went
    exact ih (h.step (step_of_take? first)) rest

end Kept

/-! ## The end -/

/-- A step of a task can be taken, if its report has been answered when it is done. -/
theorem take?_of_task {a : Worker.Action} {w : Worker} (went : x.worker.act? a = some w)
    (task : a.isTask = true) (settled : ∀ i, a = .settle i → i ∈ x.answered) :
    x.take? token (.worker a) = some { x with worker := w } := by
  have allowed : x.allows a = true := by
    cases a with
    | settle i => exact decide_eq_true (settled i rfl)
    | begin i => rfl
    | conclude i outcome => rfl
    | _ => cases task
  rw [take?, if_pos allowed, went]
  rfl

/-- Some task goes on, when its report has arrived if that is what it waits for. -/
theorem goes_on (h : Kept token x) (left : x.worker.remaining ≠ 0) :
    ∃ turns x', follow token turns x = some x' ∧ x'.worker.stopping = x.worker.stopping ∧
      x'.worker.remaining < x.worker.remaining := by
  obtain ⟨events, accounted⟩ := h.accounted
  obtain ⟨a, task, possible⟩ := accounted.unstuck left
  obtain ⟨w, went⟩ := Option.isSome_iff_exists.1 possible
  obtain ⟨i, t, stage, found, goes, same⟩ := Worker.taskStep_of_act? went task
  have stopping : w.stopping = x.worker.stopping := by rw [same]; rfl
  have less : w.remaining < x.worker.remaining := by
    have := Worker.remaining_of_task went task
    omega
  have work (y : Shift) (here : y.worker = x.worker)
      (settled : ∀ i, a = .settle i → i ∈ y.answered) :
      follow token [.worker a] y = some { y with worker := w } := by
    rw [follow, take?_of_task (here ▸ went) task settled]
    rfl
  by_cases waits : ∃ i, a = .settle i ∧ i ∉ x.answered
  · obtain ⟨j, rfl, new⟩ := waits
    obtain ⟨t', report, found', sends, -⟩ := Worker.settle_eq_some_iff.1 went
    let y : Shift :=
      { x.acted token (.request (.ack report)) with answered := j :: x.answered }
    have arrives : x.take? token (.arrive j) = some y := by
      rw [take?, Worker.sending?_eq_some_iff.2 ⟨t', found', sends⟩]
      exact if_neg new
    refine ⟨[.arrive j, .worker (.settle j)], { y with worker := w }, ?_, stopping, less⟩
    rw [follow, arrives]
    exact work y rfl fun i same => Worker.Action.settle.inj same ▸ List.mem_cons_self
  · refine ⟨[.worker a], { x with worker := w }, work x rfl fun i same => ?_, stopping, less⟩
    by_contra new
    exact waits ⟨i, same, new⟩

/-- A worker that was told to stop does so when all tasks are done. -/
theorem stops_when_done (h : Kept token x) (told : x.worker.stopping = true)
    (none : x.worker.remaining = 0) :
    ∃ turns x', follow token turns x = some x' ∧ x'.worker.phase = .stopped := by
  have drained : x.worker.isDrained = true :=
    List.all_eq_true.2 (Worker.remaining_eq_zero_iff.1 none)
  cases phase : x.worker.phase with
  | idle => exact absurd phase h.opened
  | reading =>
    have notices : x.worker.noticed = some { x.worker with phase := .draining } :=
      if_pos ⟨phase, told⟩
    have stops : Worker.stop { x.worker with phase := .draining } =
        some { x.worker with phase := .stopped } := if_pos ⟨.inl rfl, drained⟩
    refine ⟨[.worker .noticed, .worker .stop],
      { x with worker := { x.worker with phase := .stopped } }, ?_, rfl⟩
    simp [follow, take?, allows, Worker.Action.isInside, Worker.act?, notices, stops]
  | draining =>
    have stops : x.worker.stop = some { x.worker with phase := .stopped } :=
      if_pos ⟨.inl phase, drained⟩
    refine ⟨[.worker .stop], { x with worker := { x.worker with phase := .stopped } }, ?_, rfl⟩
    simp [follow, take?, allows, Worker.Action.isInside, Worker.act?, stops]
  | stopped => exact ⟨[], x, rfl, phase⟩

/-- **A worker that was told to stop** comes to its stop. -/
theorem comes_to_stop (h : Kept token x) (told : x.worker.stopping = true) :
    ∃ turns x', follow token turns x = some x' ∧ x'.worker.phase = .stopped := by
  induction left : x.worker.remaining using Nat.strong_induction_on generalizing x with
  | _ n less =>
    subst left
    by_cases none : x.worker.remaining = 0
    · exact stops_when_done h told none
    · obtain ⟨turns, y, went, stopping, closer⟩ := goes_on h none
      obtain ⟨more, x', followed, stopped⟩ :=
        less _ closer (h.follow went) (stopping.trans told) rfl
      exact ⟨turns ++ more, x', by rw [follow_append, went]; exact followed, stopped⟩

/-- When the worker has stopped, its task on the server may take any turn of its own. -/
theorem take?_of_stopped (stopped : x.worker.phase = .stopped) (own : a.task? = some token) :
    x.take? token (.server a) =
      some { x.acted token a with others := x.others ++ a.reports } := by
  have harmless : a.losesJobs = false := by cases a <;> first | rfl | cases own
  have without : x.worker.hasStream = false := by rw [Worker.hasStream, stopped]
  simp [take?, harmless, without]

/-- **The stream is given up last:** by the worker's stop, when every task is done. -/
theorem drops_stream_last {turn : Turn} (went : x.take? token turn = some x')
    (has : x.worker.hasStream = true) (dropped : x'.worker.hasStream = false) :
    turn = .worker .stop ∧ x.worker.remaining = 0 := by
  cases turn with
  | server a =>
    obtain ⟨-, went⟩ := Option.ite_none_left_eq_some.1 went
    obtain rfl := Option.some.inj went
    exact absurd (has.symm.trans dropped) nofun
  | read =>
    rw [take?] at went
    split at went
    next => cases went
    next d rest next =>
      obtain ⟨w, received, rfl⟩ := Option.map_eq_some_iff.1 went
      have step := Worker.step_of_act? (a := .receive d) received
      obtain ends | ⟨ends, -⟩ := step.drops_stream has dropped <;> cases ends
  | arrive i =>
    rw [take?] at went
    split at went
    next => cases went
    next report sends =>
      obtain ⟨-, went⟩ := Option.ite_none_left_eq_some.1 went
      obtain rfl := Option.some.inj went
      exact absurd (has.symm.trans dropped) nofun
  | worker a =>
    obtain ⟨allowed, went⟩ := Option.ite_none_right_eq_some.1 went
    obtain ⟨w, acted, rfl⟩ := Option.map_eq_some_iff.1 went
    obtain rfl | ⟨rfl, drained⟩ := (Worker.step_of_act? acted).drops_stream has dropped
    · cases allowed
    · exact ⟨rfl, drained⟩

/-- **Once the worker has stopped** the task of its stream comes to its end by turns of its own. -/
theorem comes_to_end {p : ConnectionPhase} (stopped : x.worker.phase = .stopped)
    (phase : x.server.phase? token = some p) :
    ∃ turns x', turns.length ≤ Dispatch.distance p ∧
      (∀ turn ∈ turns, ∃ a, turn = .server a ∧ a.task? = some token) ∧
      follow token turns x = some x' ∧ x'.server.phase? token = some .released := by
  induction far : Dispatch.distance p using Nat.strong_induction_on generalizing x p with
  | _ n nearer =>
    subst far
    by_cases there : p = .released
    · subst there
      exact ⟨[], x, Nat.zero_le _, fun turn ht => absurd ht List.not_mem_nil, rfl, phase⟩
    · obtain ⟨p', after, closer⟩ := Dispatch.exit_act phase there
      have own : (Dispatch.exit token p).task? = some token := by cases p <;> rfl
      let next : Shift := { x.acted token (Dispatch.exit token p) with
        others := x.others ++ (Dispatch.exit token p).reports }
      have went : x.take? token (.server (Dispatch.exit token p)) = some next :=
        take?_of_stopped stopped own
      obtain ⟨turns, x', few, mine, followed, ended⟩ :=
        nearer (Dispatch.distance p') closer (x := next) stopped after rfl
      refine ⟨.server (Dispatch.exit token p) :: turns, x',
        Nat.le_trans (Nat.succ_le_succ few) closer,
        List.forall_mem_cons.2 ⟨⟨_, rfl, own⟩, mine⟩, ?_, ended⟩
      rw [follow, went]
      exact followed

/-- What a job of the worker has come to that it has not read, at the end of the task. -/
theorem Kept.unread (h : Kept token x) (ended : Ended x.server token) {m : Moment} (hm : m ∈ x.past)
    {id : JobId} (claims : m.Claims token id)
    (unread : ∀ t ∈ x.worker.tasks, t.descriptor.id ≠ id) :
    GaveBack x.past token id ∨ x.ReportedByOthers x.past id ∨ ∃ m ∈ x.past, m.Fails token id := by
  obtain ⟨m', hm', report, arrives, same⟩ | given | fails := h.fates.ended ended hm claims
  · obtain told | ⟨i, -, t, found, sent⟩ := h.reports m' hm' report arrives
    · exact .inr (.inl ⟨m', hm', report, told, arrives, same⟩)
    · obtain ⟨events, accounted⟩ := h.accounted
      obtain ⟨own, -⟩ := accounted.on_own found sent
      exact absurd (own.symm.trans same) (unread t (List.mem_of_getElem? found))
  · exact .inl given
  · exact .inr (.inr fails)

/-- When the worker has its stream nothing has happened on it. -/
theorem kept_start {before : List Moment} {s : Server} {w₀ w : Worker} {client : Client}
    {modules : Registry} {concurrency : ℕ} (owned : Dispatch.Owned s)
    (ledger : Dispatch.Ledger before s) (serving : s.phase? token = some .serving)
    (made : Worker.create? client modules concurrency = some w₀) (opened : w₀.opened = some w) :
    Kept token { server := s, worker := w } := by
  have accounted := (Worker.accounted_create? made).step (a := .opened) opened
  have noTask : w.tasks = [] := List.map_eq_nil_iff.1 accounted.jobs
  have reading : w.phase = .reading := by
    obtain ⟨-, opened⟩ := Option.ite_none_right_eq_some.1 opened
    obtain rfl := Option.some.inj opened
    rfl
  exact {
    fates := Dispatch.fates_start owned ledger serving
    accounted := ⟨_, accounted⟩
    opened := by rw [reading]; exact nofun
    serving := fun _ => ⟨.serving, serving, rfl⟩
    quiet := fun _ m hm => absurd hm List.not_mem_nil
    stream := ⟨[], rfl, by rw [noTask]; rfl⟩
    reports := fun m hm => absurd hm List.not_mem_nil
    arrived := fun i hi => absurd hi List.not_mem_nil
    done := fun i t report found => by rw [noTask] at found; cases found }

/-- **A worker that shuts down loses nothing.**  A server is started on a store whose job table has
its key, under a name that no row bears; names are handed out once, and the job table stays in
reach.  At some time a worker opens a stream, and the stream stays until the worker has stopped.
Then after any turns of everything that goes on at the server, of the worker's tasks and of its
end, in any order:

* the tasks of the worker are the jobs that it has read, and all are done when it has stopped; when
  it was told to stop, some turns lead to that;
* the report of a task that is done is on its job, and has arrived before anything was given back;
  it was taken and the job has ended as it says, or others have reported the job before;
* the worker gives its stream up by its stop and by nothing else, when all its tasks are done;
* the report of a task arrives as a request: at a server that takes its key, the request that the
  worker's client makes of a report is that arrival, after a look at the clock;
* when the task of the stream gives its jobs back, every job that still runs under the worker waits
  again;
* the task is not at its end before the worker has stopped, and when it is, it has given every job
  back that it claimed and the worker did not read; but for those that others have reported, and
  those that the task has failed for want of a record;
* once the worker has stopped, the task comes to its end by five turns of its own at most. -/
theorem shutdown_loses_nothing {store : Store} (registry : Registry) (rules : RuleEngine)
    (timing : DispatchTiming) (fresh : store.supply.Fresh) (keyed : Keyed store.jobs.rows)
    (there : store.jobs.lost = false)
    (new : ∀ r ∈ store.jobs.rows, r.serverToken ≠ store.supply.next.1)
    (early : List Dispatch.Action) (reachable : ∀ a ∈ early, a ≠ .reach .jobs true)
    (now : ℕ) (params : ConnectParams) (remote : String) {client : Client} {modules : Registry}
    {concurrency : ℕ} {w₀ w : Worker}
    (made : Worker.create? client modules concurrency = some w₀) (opened : w₀.opened = some w) :
    let s := Dispatch.run early (Dispatch.boot store registry rules timing)
    let token := s.store.supply.next.1
    let joined := (Dispatch.act s (.connect now params remote)).2
    joined.phase? token = some .serving → ∀ turns x,
      follow token turns { server := joined, worker := w } = some x →
        (∃ read, linesTo token x.past = read ++ x.unread ∧
          x.worker.tasks.map WorkerTask.descriptor = read.filter fun d => !d.isKeepAlive) ∧
        (x.worker.phase = .stopped → ∀ t ∈ x.worker.tasks, ∃ report, t.stage = .done report) ∧
        (x.worker.stopping = true → ∃ turns x', follow token turns x = some x' ∧
          x'.worker.phase = .stopped) ∧
        (∀ t ∈ x.worker.tasks, ∀ report, t.stage = .done report →
          report.id = t.descriptor.id ∧ x.Arrived token report) ∧
        (∀ turn x', x.take? token turn = some x' → x.worker.hasStream = true →
          x'.worker.hasStream = false →
            turn = .worker .stop ∧ ∀ t ∈ x.worker.tasks, ∃ report, t.stage = .done report) ∧
        (∀ report r key? now remote, client.ackRequest? report = some r →
          Http.Route.ofPath? r.path = some .ack → Http.isAuthorized key? r = true →
            (Http.serve x.server key? now remote r).2 =
              Dispatch.act x.server.glanced (.request (.ack report))) ∧
        (∀ m ∈ x.past, m.action = .release token → m.before.phase? token = some .leaving →
          ∀ id, RunsUnder m.before.store.jobs.rows token id → m.GivesBack token id) ∧
        (Ended x.server token → x.worker.phase = .stopped ∧
          ∀ m ∈ x.past, ∀ id, m.Claims token id →
            (∀ t ∈ x.worker.tasks, t.descriptor.id ≠ id) →
              GaveBack x.past token id ∨ x.ReportedByOthers x.past id ∨
                ∃ m ∈ x.past, m.Fails token id) ∧
        (x.worker.phase = .stopped → ∃ turns x', turns.length ≤ 5 ∧
          (∀ turn ∈ turns, ∃ a, turn = .server a ∧ a.task? = some token) ∧
          follow token turns x = some x' ∧ Ended x'.server token) := by
  intro s token joined serving turns x went
  have booted := Dispatch.owned_boot registry rules timing fresh keyed there new
  have owned : Dispatch.Owned s := booted.run reachable
  have ledger := (Dispatch.ledger_start booted.sound.fresh booted.sound.keyed rfl).run early
  have start := kept_start (owned.act (a := .connect now params remote) nofun)
    (ledger.act (.connect now params remote)) serving made opened
  have kept := start.follow went
  obtain ⟨events, accounted⟩ := kept.accounted
  have all_done (drained : x.worker.remaining = 0) (t : WorkerTask) (ht : t ∈ x.worker.tasks) :
      ∃ report, t.stage = .done report := by
    have ended := Worker.remaining_eq_zero_iff.1 drained t ht
    cases stage : t.stage with
    | done report => exact ⟨report, rfl⟩
    | _ => simp [stage, TaskStage.isDone] at ended
  refine ⟨kept.stream, fun stopped => all_done (accounted.stopped stopped), comes_to_stop kept,
    fun t ht report ended => ?_, fun turn x' goes has dropped => ?_,
    fun report r key? now remote request routed accepted => ?_, kept.fates.released,
    fun ended => ⟨?_, fun m hm id claims unread => ?_⟩, fun stopped => ?_⟩
  · obtain ⟨i, found⟩ := List.mem_iff_getElem?.1 ht
    have own : t.stage.report? = some report := by rw [ended]; rfl
    obtain ⟨t', report', found', own', arrived⟩ :=
      kept.arrived i (kept.done i t report found ended)
    obtain rfl := Option.some.inj (found.symm.trans found')
    obtain rfl := Option.some.inj (own.symm.trans own')
    exact ⟨(accounted.on_own found own).1, arrived⟩
  · exact (drops_stream_last goes has dropped).imp_right all_done
  · rw [Http.serve_ackRequest request routed accepted]
  · by_contra busy
    obtain ⟨p, phase, serves⟩ := kept.serving (Worker.hasStream_iff.2 ⟨kept.opened, busy⟩)
    obtain rfl := ended p phase
    cases serves
  · exact kept.unread ended hm claims unread
  · cases phase : x.server.phase? token with
    | none => exact ⟨[], x, Nat.zero_le 5, fun turn ht => absurd ht List.not_mem_nil, rfl,
        fun p present => by rw [phase] at present; cases present⟩
    | some p =>
      obtain ⟨turns, x', few, mine, followed, ended⟩ := comes_to_end stopped phase
      exact ⟨turns, x', few.trans (Dispatch.distance_le p), mine, followed,
        fun p' last => Option.some.inj (last.symm.trans ended)⟩

/-- The lone store's server queues a second job, and a worker connects. -/
def busyLone : Server :=
  let queued := Dispatch.run [.request (.enqueue "case" "item" "Hayabusa")]
    (Dispatch.boot Dispatch.lone {} namePatternRules {})
  (Dispatch.act queued (.connect 0 ⟨"Hayabusa", 1⟩ "localhost")).2

/-- A job is claimed for the worker, and its line is written. -/
def handOut : List Turn :=
  [.server (.poll 0 "www"), .server (.proceed "www" true), .server (.proceed "www" true),
    .server (.proceed "www" true)]

/-- The worker runs the first job when it is told to stop.  While it waits for its task, it gets the
second job, which it does not read. -/
def shutdownLone : List Turn :=
  handOut ++ [.read, .worker (.begin 0), .worker .shutdown, .worker .noticed] ++ handOut ++
    [.worker (.conclude 0 (.ok ())), .arrive 0, .worker (.settle 0), .worker .stop,
      .server (.leave "www"), .server (.release "www")]

/-- The request with the first job's report is on the route for reports. -/
theorem ackRequest?_lone : ∃ r, Client.ackRequest? ⟨"http://localhost", none⟩
    ⟨"job", .success, ""⟩ = some r ∧ Http.Route.ofPath? r.path = some .ack :=
  ⟨_, rfl, by decide +kernel⟩

/-- The first job's report arrives in time, as the request that the worker's client makes of it, and
the second job is given back. -/
theorem shutdown_loses_nothing_lone :
    let w : Worker := { client := ⟨"http://localhost", none⟩, registry := Worker.loneRegistry,
                        permits := 1, phase := .reading }
    let report : AckRequest := ⟨"job", .success, ""⟩
    ∃ x, follow "www" shutdownLone { server := busyLone, worker := w } = some x ∧
      x.worker.phase = .stopped ∧
      (∃ t ∈ x.worker.tasks, t.stage = .done report) ∧ x.Arrived "www" report ∧
      (∃ r, w.client.ackRequest? report = some r ∧ Http.Route.ofPath? r.path = some .ack ∧
        (Http.serve x.server none 0 "localhost" r).2 =
          Dispatch.act x.server.glanced (.request (.ack report))) ∧
      (∃ m ∈ x.past, m.Claims "www" "ww") ∧ GaveBack x.past "www" "ww" := by
  intro w report
  let w₀ : Worker := { w with phase := .idle }
  have made : Worker.create? ⟨"http://localhost", none⟩ Worker.loneRegistry 1 = some w₀ := rfl
  have opened : w₀.opened = some w := rfl
  have serving : busyLone.phase? "www" = some .serving := by rfl
  obtain ⟨x, went⟩ : ∃ x, follow "www" shutdownLone { server := busyLone, worker := w } = some x :=
    Option.isSome_iff_exists.1 (by decide +kernel)
  have shows {α : Type} {v : α} (f : Shift → α)
      (h : (follow "www" shutdownLone { server := busyLone, worker := w }).map f = some v) :
      f x = v := by
    rw [went] at h
    exact Option.some.inj h
  have stopped : x.worker.phase = .stopped := shows (·.worker.phase) (by decide +kernel)
  have tasks : x.worker.tasks =
      [⟨⟨"job", "www", "Hayabusa", some Dispatch.loneCase, some Dispatch.loneItem⟩,
        .done report⟩] := shows (·.worker.tasks) (by decide +kernel)
  have alone : x.others = [] := shows Shift.others (by decide +kernel)
  have found := shows (v := true) (fun x => x.past.all fun m =>
    decide ((m.before.phase? "www").map Dispatch.distance ≠ some 3)) (by decide +kernel)
  have released : x.server.phase? "www" = some .released :=
    shows (·.server.phase? "www") (by decide +kernel)
  have ended : Ended x.server "www" := fun p phase => Option.some.inj (phase.symm.trans released)
  have claimed := shows (v := true) (fun x => x.past.any fun m =>
    decide ((∃ r ∈ m.before.store.jobs.rows, r.id = "ww" ∧ r.status = .scheduled) ∧
      RunsUnder m.after.store.jobs.rows "www" "ww")) (by decide +kernel)
  obtain ⟨m, hm, shown⟩ := List.any_eq_true.1 claimed
  obtain ⟨waited, runs⟩ := of_decide_eq_true shown
  have claims : m.Claims "www" "ww" := ⟨waited, runs⟩
  have new : ∀ r ∈ Dispatch.lone.jobs.rows, r.serverToken ≠ Dispatch.lone.supply.next.1 := by
    decide +kernel
  obtain ⟨-, -, -, done, -, arrives, -, gone, -⟩ := shutdown_loses_nothing {} namePatternRules {}
    Dispatch.fresh_lone Dispatch.keyed_lone rfl new
    [.request (.enqueue "case" "item" "Hayabusa")] (by simp) 0 ⟨"Hayabusa", 1⟩ "localhost" made
    opened serving shutdownLone x went
  have mine : ⟨⟨"job", "www", "Hayabusa", some Dispatch.loneCase, some Dispatch.loneItem⟩,
      .done report⟩ ∈ x.worker.tasks := tasks ▸ List.mem_singleton_self _
  obtain ⟨r, request, routed⟩ := ackRequest?_lone
  refine ⟨x, went, stopped, ⟨_, mine, rfl⟩, (done _ mine report rfl).2,
    ⟨r, request, routed, arrives report r none 0 "localhost" request routed rfl⟩, ⟨m, hm, claims⟩,
    ?_⟩
  obtain given | ⟨-, -, other, told, -⟩ | ⟨m', hm', -, missing, -, fails⟩ :=
    (gone ended).2 m hm "ww" claims (by rw [tasks]; decide)
  · exact given
  · rw [alone] at told
    cases told
  · have whole := of_decide_eq_true (List.all_eq_true.1 found m' hm')
    have fails : m'.before.phase? "www" = some (.failing "ww" missing) := fails
    rw [fails] at whole
    exact absurd rfl whole

end Shift
end Casework
