/-
# What a worker does with the jobs that it gets

`Worker.follow` takes any steps of a worker in any order: lines that arrive over any number of
streams, streams that end, tasks that begin, come to the end of their module and send their report.
What can be seen of the worker meanwhile is written down (`Worker.Event`).

| stage of a task | what was seen of it |
| --- | --- |
| `waiting` | nothing |
| `executing` | its module was started, if there is such a module |
| `reporting r`, `done r` | the same, and then the request with `r` |

The table is an invariant (`Accounted`): the tasks are the jobs that have arrived, in their order,
and of each just so much was seen as its stage says.  So no job is lost, run twice or reported
twice, and signs of life cause nothing.

That every job is reported in the end does not depend on the streams.  While a task is not done
some task can go on, in any phase (`Accounted.unstuck`), and each such step takes one from what is
left to do (`remaining_of_task`).  The worker's life is a run of such steps, and the requests that
it sends are the reports that were seen, each behind those of its job's artifacts (`spans_tells`).
It takes no line before the job of the last one is reported (`covers_rests`).  `jobs_accounted` puts
the parts together.
-/

import Casework.Proofs.Worker.Outcomes
import Casework.Worker.Basic
import Mathlib

namespace Casework

/-- How a job ends whose module ends so; without a module it ends with the complaint about that. -/
def Registry.ending (r : Registry) (d : JobDescriptor) (outcome : RunOutcome) : RunOutcome :=
  if r.contains d.name then outcome else .error (ModuleError.notConfigured d.name).message

namespace TaskStage

/-- The report that is on its way or was sent. -/
def report? : TaskStage → Option AckRequest
  | .reporting report => some report
  | .done report => some report
  | _ => none

/-- The steps that a task has still to take. -/
def remaining : TaskStage → Nat
  | .waiting => 3
  | .executing => 2
  | .reporting _ => 1
  | .done _ => 0

/-- A stage with no steps left is the last. -/
theorem isDone_iff {stage : TaskStage} : stage.isDone = true ↔ stage.remaining = 0 := by
  cases stage <;> simp [isDone, remaining]

end TaskStage

namespace Worker

/-- A step of a worker. -/
inductive Action where
  | shutdown
  | opened
  | receive (d : JobDescriptor)
  | streamEnded
  | noticed
  | begin (i : Nat)
  | conclude (i : Nat) (outcome : RunOutcome)
  | settle (i : Nat)
  | stop

/-- The step is one of a task. -/
def Action.isTask : Action → Bool
  | .begin _ => true
  | .conclude _ _ => true
  | .settle _ => true
  | _ => false

/-- The step brings a line. -/
def Action.isLine : Action → Bool
  | .receive _ => true
  | _ => false

/-- What can be seen of a worker. -/
inductive Event where
  /-- A line has arrived. -/
  | received (d : JobDescriptor)
  /-- The module of a task is started. -/
  | starts (i : Nat) (d : JobDescriptor)
  /-- The report of a task is sent. -/
  | asks (i : Nat) (report : AckRequest)
deriving DecidableEq

namespace Event

/-- The event is one of the task at a place. -/
def concerns (i : Nat) : Event → Bool
  | .received _ => false
  | .starts j _ => j == i
  | .asks j _ => j == i

/-- The job that arrives, if the event is the arrival of one. -/
def job? : Event → Option JobDescriptor
  | .received d => if d.isKeepAlive then none else some d
  | _ => none

end Event

/-- The worker after a step, if the step is possible. -/
def act? (w : Worker) : Action → Option Worker
  | .shutdown => some w.shutdown
  | .opened => w.opened
  | .receive d => w.receive d
  | .streamEnded => w.streamEnded
  | .noticed => w.noticed
  | .begin i => w.begin i
  | .conclude i outcome => do
    let t ← w.tasks[i]?
    w.conclude i ((w.registry.ending t.descriptor outcome).report t.descriptor.id)
  | .settle i => w.settle i
  | .stop => w.stop

/-- What is seen when the task of a job gets its permit. -/
def started (r : Registry) (i : Nat) (d : JobDescriptor) : List Event :=
  if r.contains d.name then [.starts i d] else []

/-- What is seen of a step. -/
def seen (w : Worker) : Action → List Event
  | .receive d => [.received d]
  | .begin i =>
    match w.tasks[i]? with
    | some t => started w.registry i t.descriptor
    | none => []
  | .conclude i outcome =>
    match w.tasks[i]? with
    | some t => [.asks i ((w.registry.ending t.descriptor outcome).report t.descriptor.id)]
    | none => []
  | _ => []

/-- Steps, one after the other: what is seen of them, and the worker after them. -/
def follow (w : Worker) : List Action → Option (List Event × Worker)
  | [] => some ([], w)
  | a :: actions => do
    let next ← w.act? a
    let (events, last) ← next.follow actions
    return (w.seen a ++ events, last)

/-- What was seen of a task by its stage. -/
def history (r : Registry) (i : Nat) (t : WorkerTask) : List Event :=
  match t.stage with
  | .waiting => []
  | .executing => started r i t.descriptor
  | .reporting report => started r i t.descriptor ++ [.asks i report]
  | .done report => started r i t.descriptor ++ [.asks i report]

/-- The steps that the tasks have still to take. -/
def remaining (w : Worker) : Nat := (w.tasks.map fun t => t.stage.remaining).sum

variable {w w' : Worker} {a : Action}

/-! ## One step -/

/-- A step of the task at a place, with the stage that it leads to and what is seen of it. -/
inductive TaskStep (w : Worker) (i : Nat) (t : WorkerTask) :
    Action → TaskStage → List Event → Prop where
  | begins (waits : t.stage = .waiting) (free : w.held < w.permits) :
      TaskStep w i t (.begin i) .executing (started w.registry i t.descriptor)
  | concludes {outcome : RunOutcome} {report : AckRequest} (runs : t.stage = .executing)
      (own : report = (w.registry.ending t.descriptor outcome).report t.descriptor.id) :
      TaskStep w i t (.conclude i outcome) (.reporting report) [.asks i report]
  | settles {report : AckRequest} (sends : t.stage = .reporting report) :
      TaskStep w i t (.settle i) (.done report) []

/-- A step from phase to phase, with the phase that it leads to and whether the worker was told to
stop. -/
inductive PhaseStep (w : Worker) : Action → WorkerPhase → Bool → Prop where
  | told : PhaseStep w .shutdown w.phase true
  | opens (idle : w.phase = .idle) (on : w.stopping = false) :
      PhaseStep w .opened .reading w.stopping
  | ends (reads : w.phase = .reading) : PhaseStep w .streamEnded .idle w.stopping
  | notices (reads : w.phase = .reading) (told : w.stopping = true) :
      PhaseStep w .noticed .draining w.stopping
  | stops (left : w.phase = .draining ∨ w.phase = .idle ∧ w.stopping = true)
      (drained : w.remaining = 0) : PhaseStep w .stop .stopped w.stopping

/-- What a step can do: it goes from phase to phase, a line arrives, or a task goes on. -/
inductive Step (w : Worker) : Action → List Event → Worker → Prop where
  | phase {a : Action} {phase : WorkerPhase} {stopping : Bool}
      (goes : PhaseStep w a phase stopping) :
      Step w a [] { w with phase := phase, stopping := stopping }
  | lives {d : JobDescriptor} (sign : d.isKeepAlive = true) (reads : w.phase = .reading) :
      Step w (.receive d) [.received d] w
  | arrives {d : JobDescriptor} (real : d.isKeepAlive = false) (reads : w.phase = .reading) :
      Step w (.receive d) [.received d] { w with tasks := w.tasks ++ [{ descriptor := d }] }
  | task {a : Action} {i : Nat} {t : WorkerTask} {stage : TaskStage} {events : List Event}
      (found : w.tasks[i]? = some t) (goes : TaskStep w i t a stage events) :
      Step w a events (w.setStage i t stage)

/-- A task begins if it waits and there is a permit for it. -/
theorem begin_eq_some_iff {i : Nat} : w.begin i = some w' ↔ ∃ t, w.tasks[i]? = some t ∧
    t.stage = .waiting ∧ w.held < w.permits ∧ w' = w.setStage i t .executing := by
  unfold begin
  cases w.tasks[i]? <;> simp [and_assoc, eq_comm]

/-- A task that executes ends with a report on its own job. -/
theorem conclude_eq_some_iff {i : Nat} {report : AckRequest} :
    w.conclude i report = some w' ↔ ∃ t, w.tasks[i]? = some t ∧ t.stage = .executing ∧
      report.id = t.descriptor.id ∧ w' = w.setStage i t (.reporting report) := by
  unfold conclude
  cases w.tasks[i]? <;> simp [and_assoc, eq_comm]

/-- A task that reports is done when its report was answered. -/
theorem settle_eq_some_iff {i : Nat} : w.settle i = some w' ↔ ∃ t report,
    w.tasks[i]? = some t ∧ t.stage = .reporting report ∧ w' = w.setStage i t (.done report) := by
  unfold settle
  cases w.tasks[i]? with
  | none => simp
  | some t => cases stage : t.stage <;> simp [stage, eq_comm]

/-- No steps are left if every task is done. -/
theorem remaining_eq_zero_iff : w.remaining = 0 ↔ ∀ t ∈ w.tasks, t.stage.isDone = true := by
  simp only [remaining, TaskStage.isDone_iff, List.sum_eq_zero_iff, List.forall_mem_map]

/-- The report on a job bears its id. -/
theorem report_id (id : JobId) (outcome : RunOutcome) : (outcome.report id).id = id := by
  cases outcome <;> rfl

/-- **A step that is possible** is one of these. -/
theorem step_of_act? (h : w.act? a = some w') : Step w a (w.seen a) w' := by
  cases a with
  | shutdown =>
    obtain rfl := Option.some.inj h
    exact .phase .told
  | opened =>
    obtain ⟨⟨idle, on⟩, h⟩ := Option.ite_none_right_eq_some.1 h
    obtain rfl := Option.some.inj h
    exact .phase (.opens idle (by simpa using on))
  | receive d =>
    obtain ⟨reads, h⟩ := Option.ite_none_right_eq_some.1 h
    cases sign : d.isKeepAlive with
    | true =>
      rw [sign] at h
      obtain rfl := Option.some.inj h
      exact .lives sign reads
    | false =>
      rw [sign] at h
      obtain rfl := Option.some.inj h
      exact .arrives sign reads
  | streamEnded =>
    obtain ⟨reads, h⟩ := Option.ite_none_right_eq_some.1 h
    obtain rfl := Option.some.inj h
    exact .phase (.ends reads)
  | noticed =>
    obtain ⟨⟨reads, told⟩, h⟩ := Option.ite_none_right_eq_some.1 h
    obtain rfl := Option.some.inj h
    exact .phase (.notices reads told)
  | begin i =>
    obtain ⟨t, found, waits, free, rfl⟩ := begin_eq_some_iff.1 h
    have events : w.seen (.begin i) = started w.registry i t.descriptor := by simp [seen, found]
    exact events ▸ .task found (.begins waits free)
  | conclude i outcome =>
    obtain ⟨t, found, h⟩ := Option.bind_eq_some_iff.1 h
    obtain ⟨_, same, runs, -, rfl⟩ := conclude_eq_some_iff.1 h
    obtain rfl := Option.some.inj (found.symm.trans same)
    have events : w.seen (.conclude i outcome) =
        [.asks i ((w.registry.ending t.descriptor outcome).report t.descriptor.id)] := by
      simp [seen, found]
    exact events ▸ .task found (.concludes runs rfl)
  | settle i =>
    obtain ⟨t, report, found, sends, rfl⟩ := settle_eq_some_iff.1 h
    exact .task found (.settles sends)
  | stop =>
    obtain ⟨⟨left, drained⟩, h⟩ := Option.ite_none_right_eq_some.1 h
    obtain rfl := Option.some.inj h
    exact .phase (.stops left (remaining_eq_zero_iff.2 (List.all_eq_true.1 drained)))

/-- A worker has its stream from the time that it reads until it stops. -/
theorem hasStream_iff : w.hasStream = true ↔ w.phase ≠ .idle ∧ w.phase ≠ .stopped := by
  unfold hasStream
  cases w.phase <;> simp

/-- **A stream is given up** when it ends, or when the worker stops, and then every task is done. -/
theorem Step.drops_stream {events : List Event} (goes : Step w a events w')
    (has : w.hasStream = true) (dropped : w'.hasStream = false) :
    a = .streamEnded ∨ a = .stop ∧ w.remaining = 0 := by
  cases goes with
  | phase goes =>
    cases goes with
    | told => exact absurd (has.symm.trans dropped) nofun
    | opens => cases dropped
    | ends => exact .inl rfl
    | notices => cases dropped
    | stops left drained => exact .inr ⟨rfl, drained⟩
  | lives | arrives | task => exact absurd (has.symm.trans dropped) nofun

/-! ## Tasks -/

/-- A sum over a list of which one member is replaced. -/
theorem sum_map_set {α : Type} (f : α → Nat) {l : List α} {i : Nat} {x : α} (h : l[i]? = some x)
    (y : α) : ((l.set i y).map f).sum + f x = (l.map f).sum + f y := by
  induction l generalizing i with
  | nil => cases h
  | cons z l ih =>
    cases i with
    | zero =>
      obtain rfl := Option.some.inj h
      simp only [List.set_cons_zero, List.map_cons, List.sum_cons]
      omega
    | succ i =>
      have := ih h
      simp only [List.set_cons_succ, List.map_cons, List.sum_cons]
      omega

section Tasks

variable {i : Nat} {t : WorkerTask} {stage : TaskStage} {events : List Event}

/-- The task whose stage was changed. -/
theorem getElem?_setStage (found : w.tasks[i]? = some t) (stage : TaskStage) :
    (w.setStage i t stage).tasks[i]? = some { t with stage := stage } :=
  List.getElem?_set_self (List.getElem?_eq_some_iff.1 found).1

/-- Of two changes of one stage the second counts. -/
theorem setStage_setStage (w : Worker) (i : Nat) (t : WorkerTask) (stage stage' : TaskStage) :
    (w.setStage i t stage).setStage i { t with stage := stage } stage' = w.setStage i t stage' := by
  simp [setStage]

/-- A task that waits begins if a permit is free. -/
theorem begin_of_waiting (found : w.tasks[i]? = some t) (waits : t.stage = .waiting)
    (free : w.held < w.permits) : w.begin i = some (w.setStage i t .executing) :=
  begin_eq_some_iff.2 ⟨t, found, waits, free, rfl⟩

/-- After that it can come to any report on its job. -/
theorem conclude_of_executing (found : w.tasks[i]? = some t) {report : AckRequest}
    (own : report.id = t.descriptor.id) : (w.setStage i t .executing).conclude i report =
      some (w.setStage i t (.reporting report)) :=
  conclude_eq_some_iff.2 ⟨_, getElem?_setStage found .executing, rfl, own,
    (setStage_setStage ..).symm⟩

/-- And after that it is done. -/
theorem settle_of_reporting (found : w.tasks[i]? = some t) (report : AckRequest) :
    (w.setStage i t (.reporting report)).settle i = some (w.setStage i t (.done report)) :=
  settle_eq_some_iff.2 ⟨_, _, getElem?_setStage found (.reporting report), rfl,
    (setStage_setStage ..).symm⟩

/-- What a change of stage does to the number of permits that are held. -/
theorem held_setStage (found : w.tasks[i]? = some t) (stage : TaskStage) :
    (w.setStage i t stage).held + t.stage.holdsPermit.toNat =
      w.held + stage.holdsPermit.toNat := by
  have counted (l : List WorkerTask) : (l.countP fun t => t.stage.holdsPermit) =
      (l.map fun t => t.stage.holdsPermit.toNat).sum := by
    induction l with
    | nil => rfl
    | cons t l ih => cases h : t.stage.holdsPermit <;> simp [h, ih, Nat.add_comm]
  rw [held, held, counted, counted]
  exact sum_map_set (fun t => t.stage.holdsPermit.toNat) found { t with stage := stage }

/-- A task that changes its stage changes the steps that are left by its own. -/
theorem remaining_setStage (found : w.tasks[i]? = some t) (stage : TaskStage) :
    (w.setStage i t stage).remaining + t.stage.remaining = w.remaining + stage.remaining :=
  sum_map_set (fun t => t.stage.remaining) found { t with stage := stage }

/-- What is a step of a task is an action of one. -/
theorem TaskStep.isTask (goes : TaskStep w i t a stage events) : a.isTask = true := by
  cases goes <;> rfl

/-- **A step of a task** takes one from what is left to do. -/
theorem TaskStep.remaining (goes : TaskStep w i t a stage events) :
    stage.remaining + 1 = t.stage.remaining := by
  cases goes with
  | begins waits => rw [waits]; rfl
  | concludes runs => rw [runs]; rfl
  | settles sends => rw [sends]; rfl

/-- It adds to the task's history what is seen of it. -/
theorem TaskStep.history (goes : TaskStep w i t a stage events) :
    Worker.history w.registry i { t with stage := stage } =
      Worker.history w.registry i t ++ events := by
  cases goes with
  | begins waits => simp [Worker.history, waits]
  | concludes runs => simp [Worker.history, runs]
  | settles sends => simp [Worker.history, sends]

/-- It is seen of this task and of no other. -/
theorem TaskStep.concerns (goes : TaskStep w i t a stage events) (j : Nat) :
    events.filter (Event.concerns j) = if i = j then events else [] := by
  have of_all {events : List Event} (all : ∀ e ∈ events, e.concerns j = decide (i = j)) :
      events.filter (Event.concerns j) = if i = j then events else [] := by
    split
    next same => exact List.filter_eq_self.2 fun e he => by simp [all e he, same]
    next other => exact List.filter_eq_nil_iff.2 fun e he => by simp [all e he, other]
  refine of_all fun e he => ?_
  cases goes with
  | begins =>
    obtain ⟨-, he⟩ := List.mem_ite_nil_right.1 he
    obtain rfl := List.mem_singleton.1 he
    rfl
  | concludes =>
    obtain rfl := List.mem_singleton.1 he
    rfl
  | settles => cases he

/-- No line arrives by it. -/
theorem TaskStep.jobs (goes : TaskStep w i t a stage events) :
    events.filterMap Event.job? = [] := by
  cases goes with
  | begins => unfold started; split <;> rfl
  | concludes => rfl
  | settles => rfl

end Tasks

/-! ## The invariant -/

/-- What was seen of the task at a place, nothing if there is none. -/
def historyAt (w : Worker) (i : Nat) : List Event :=
  match w.tasks[i]? with
  | some t => history w.registry i t
  | none => []

/-- A worker is accounted for by what was seen of it. -/
structure Accounted (past : List Event) (w : Worker) : Prop where
  /-- The tasks are the jobs that have arrived. -/
  jobs : w.tasks.map WorkerTask.descriptor = past.filterMap Event.job?
  /-- The table holds. -/
  table : ∀ i, past.filter (Event.concerns i) = w.historyAt i
  /-- A report is the task's own. -/
  own : ∀ t ∈ w.tasks, ∀ report, t.stage.report? = some report →
    ∃ outcome, report = (w.registry.ending t.descriptor outcome).report t.descriptor.id
  /-- Permits are kept. -/
  bounded : w.held ≤ w.permits
  some_permit : 0 < w.permits
  /-- No task is left when the worker has stopped. -/
  stopped : w.phase = .stopped → w.remaining = 0

variable {past : List Event}

/-- A worker that has just been made has nothing to account for. -/
theorem accounted_create? {client : Client} {registry : Registry} {concurrency : Nat}
    (made : create? client registry concurrency = some w) : Accounted [] w := by
  obtain ⟨-, made⟩ := Option.ite_none_left_eq_some.1 made
  obtain rfl := Option.some.inj made
  exact {
    jobs := rfl
    table := fun i => rfl
    own := fun t ht => absurd ht List.not_mem_nil
    bounded := Nat.zero_le _
    some_permit := by show 0 < max 1 concurrency; omega
    stopped := fun _ => rfl }

/-- **A task that goes on** stays accounted for. -/
theorem Accounted.task {i : Nat} {t : WorkerTask} {stage : TaskStage} {events : List Event}
    (h : Accounted past w) (found : w.tasks[i]? = some t)
    (goes : TaskStep w i t a stage events) :
    Accounted (past ++ events) (w.setStage i t stage) := by
  obtain ⟨within, here⟩ := List.getElem?_eq_some_iff.1 found
  refine { jobs := ?_, table := fun j => ?_, own := ?_, bounded := ?_,
           some_permit := h.some_permit, stopped := fun stopped => ?_ }
  · rw [List.filterMap_append, goes.jobs, List.append_nil, ← h.jobs]
    refine List.ext_getElem? fun j => ?_
    by_cases same : i = j
    · subst same
      simp [setStage, within, here]
    · simp [setStage, same]
  · rw [List.filter_append, h.table j, goes.concerns j]
    by_cases same : i = j
    · subst same
      simp only [historyAt, setStage, found, List.getElem?_set_self within, if_true]
      exact goes.history.symm
    · simp [historyAt, setStage, same]
  · intro t' ht' report sends
    obtain old | rfl := List.mem_or_eq_of_mem_set ht'
    · exact h.own t' old report sends
    · cases goes with
      | begins => cases sends
      | concludes runs own => exact ⟨_, (Option.some.inj sends).symm.trans own⟩
      | settles sent =>
        refine h.own t (List.mem_of_getElem? found) report ?_
        rw [sent]
        exact sends
  · have held := held_setStage found stage
    have before := h.bounded
    change _ ≤ w.permits
    cases goes with
    | begins waits free =>
      simp only [waits, TaskStage.holdsPermit, Bool.toNat_false, Bool.toNat_true] at held
      omega
    | concludes runs =>
      simp only [runs, TaskStage.holdsPermit, Bool.toNat_true] at held
      omega
    | settles sends =>
      simp only [sends, TaskStage.holdsPermit, Bool.toNat_false, Bool.toNat_true] at held
      omega
  · have left := remaining_setStage found stage
    have := goes.remaining
    have := h.stopped stopped
    omega

/-- **Every step** keeps the worker accounted for. -/
theorem Accounted.step (h : Accounted past w) (went : w.act? a = some w') :
    Accounted (past ++ w.seen a) w' := by
  have step := step_of_act? went
  generalize w.seen a = events at step
  cases step with
  | phase goes =>
    refine { h with
      jobs := by rw [List.append_nil]; exact h.jobs
      table := by rw [List.append_nil]; exact h.table
      stopped := fun stopped => ?_ }
    cases goes with
    | told => exact h.stopped stopped
    | opens => cases stopped
    | ends => cases stopped
    | notices => cases stopped
    | stops left drained => exact drained
  | lives sign reads =>
    exact { h with
      jobs := by simpa [List.filterMap_append, Event.job?, sign] using h.jobs
      table := fun i => by simpa [List.filter_append, Event.concerns] using h.table i }
  | arrives real reads =>
    rename_i d
    refine { h with jobs := ?_, table := fun i => ?_, own := ?_, bounded := ?_, stopped := ?_ }
    · simp [List.filterMap_append, Event.job?, real, h.jobs]
    · rw [List.filter_append, h.table i]
      obtain inside | outside := Nat.lt_or_ge i w.tasks.length
      · simp [historyAt, Event.concerns, List.getElem?_append_left inside]
      · have empty : w.historyAt i = [] := by
          simp [historyAt, List.getElem?_eq_none outside]
        rw [empty]
        obtain rfl | beyond := Nat.eq_or_lt_of_le outside
        · simp [historyAt, history, Event.concerns]
        · have none : (w.tasks ++ [{ descriptor := d }])[i]? = none :=
            List.getElem?_eq_none (by simpa using beyond)
          simp [historyAt, none, Event.concerns]
    · intro t ht report sends
      obtain old | new := List.mem_append.1 ht
      · exact h.own t old report sends
      · obtain rfl := List.mem_singleton.1 new
        cases sends
    · have same : held { w with tasks := w.tasks ++ [{ descriptor := d }] } = w.held := by
        simp [held, TaskStage.holdsPermit]
      exact same.trans_le h.bounded
    · intro stopped
      cases reads.symm.trans stopped
  | task found goes => exact h.task found goes

/-! ## Runs -/

variable {actions : List Action} {events : List Event}

/-- A run begins with an action that can be taken, and goes on from there. -/
theorem follow_cons_eq_some_iff : w.follow (a :: actions) = some (events, w') ↔
    ∃ next rest, w.act? a = some next ∧ next.follow actions = some (rest, w') ∧
      events = w.seen a ++ rest := by
  simp only [follow, Option.bind_eq_bind, Option.bind_eq_some_iff, Prod.exists, Option.pure_def,
    Option.some.injEq, Prod.mk.injEq]
  constructor
  · rintro ⟨next, went, rest, last, followed, rfl, rfl⟩
    exact ⟨next, rest, went, followed, rfl⟩
  · rintro ⟨next, rest, went, followed, rfl⟩
    exact ⟨next, went, rest, w', followed, rfl, rfl⟩

/-- **Every run** keeps the worker accounted for. -/
theorem Accounted.follow (h : Accounted past w)
    (went : w.follow actions = some (events, w')) : Accounted (past ++ events) w' := by
  induction actions generalizing w past events with
  | nil =>
    obtain ⟨rfl, rfl⟩ := Prod.mk.inj (Option.some.inj went)
    rwa [List.append_nil]
  | cons a actions ih =>
    obtain ⟨next, rest, first, followed, rfl⟩ := follow_cons_eq_some_iff.1 went
    rw [← List.append_assoc]
    exact ih (h.step first) followed

/-- What a worker has from the start. -/
theorem fixed_act? (went : w.act? a = some w') :
    w'.client = w.client ∧ w'.registry = w.registry ∧ w'.permits = w.permits := by
  have step := step_of_act? went
  generalize w.seen a = events at step
  cases step <;> exact ⟨rfl, rfl, rfl⟩

/-- No step changes it. -/
theorem fixed_follow (went : w.follow actions = some (events, w')) :
    w'.client = w.client ∧ w'.registry = w.registry ∧ w'.permits = w.permits := by
  induction actions generalizing w events with
  | nil =>
    obtain ⟨rfl, rfl⟩ := Prod.mk.inj (Option.some.inj went)
    exact ⟨rfl, rfl, rfl⟩
  | cons a actions ih =>
    obtain ⟨next, rest, first, followed, rfl⟩ := follow_cons_eq_some_iff.1 went
    obtain ⟨client, registry, permits⟩ := fixed_act? first
    obtain ⟨client', registry', permits'⟩ := ih followed
    exact ⟨client'.trans client, registry'.trans registry, permits'.trans permits⟩

/-- Steps after steps are steps. -/
theorem follow_append {w'' : Worker} {more : List Action} {later : List Event}
    (went : w.follow actions = some (events, w')) (goes : w'.follow more = some (later, w'')) :
    w.follow (actions ++ more) = some (events ++ later, w'') := by
  induction actions generalizing w events with
  | nil =>
    obtain ⟨rfl, rfl⟩ := Prod.mk.inj (Option.some.inj went)
    exact goes
  | cons a actions ih =>
    obtain ⟨next, rest, first, followed, rfl⟩ := follow_cons_eq_some_iff.1 went
    exact follow_cons_eq_some_iff.2 ⟨next, rest ++ later, first, ih followed, List.append_assoc ..⟩

/-! ## Tasks go on -/

/-- A step of a task, seen from the action. -/
theorem taskStep_of_act? (went : w.act? a = some w') (task : a.isTask = true) :
    ∃ i t stage, w.tasks[i]? = some t ∧ TaskStep w i t a stage (w.seen a) ∧
      w' = w.setStage i t stage := by
  have step := step_of_act? went
  generalize w.seen a = events at step ⊢
  cases step with
  | phase goes => cases goes <;> cases task
  | lives => cases task
  | arrives => cases task
  | task found goes => exact ⟨_, _, _, found, goes, rfl⟩

/-- A step of a task leaves one step less. -/
theorem remaining_of_task (went : w.act? a = some w') (task : a.isTask = true) :
    1 + w'.remaining = w.remaining := by
  obtain ⟨i, t, stage, found, goes, rfl⟩ := taskStep_of_act? went task
  have left := remaining_setStage found stage
  have := goes.remaining
  omega

/-- However the tasks go on, each step takes one from what is left to do, and no line arrives. -/
theorem remaining_of_tasks (went : w.follow actions = some (events, w'))
    (tasks : ∀ a ∈ actions, a.isTask = true) :
    actions.length + w'.remaining = w.remaining ∧ events.filterMap Event.job? = [] := by
  induction actions generalizing w events with
  | nil =>
    obtain ⟨rfl, rfl⟩ := Prod.mk.inj (Option.some.inj went)
    exact ⟨Nat.zero_add _, rfl⟩
  | cons a actions ih =>
    obtain ⟨task, tasks⟩ := List.forall_mem_cons.1 tasks
    obtain ⟨next, rest, first, followed, rfl⟩ := follow_cons_eq_some_iff.1 went
    obtain ⟨i, t, stage, -, goes, -⟩ := taskStep_of_act? first task
    obtain ⟨left, silent⟩ := ih followed tasks
    have := remaining_of_task first task
    refine ⟨by rw [List.length_cons]; omega, ?_⟩
    rw [List.filterMap_append, goes.jobs, silent, List.append_nil]

/-- **As long as something is left to do,** some task can go on, whatever becomes of the streams. -/
theorem Accounted.unstuck (h : Accounted past w) (left : w.remaining ≠ 0) :
    ∃ a, a.isTask = true ∧ (w.act? a).isSome = true := by
  by_cases busy : ∃ t ∈ w.tasks, t.stage.holdsPermit = true
  · obtain ⟨t, ht, holds⟩ := busy
    obtain ⟨i, found⟩ := List.mem_iff_getElem?.1 ht
    cases stage : t.stage with
    | executing =>
      refine ⟨.conclude i (.ok ()), rfl, ?_⟩
      simp [act?, conclude, found, stage, report_id]
    | reporting report =>
      refine ⟨.settle i, rfl, ?_⟩
      simp [act?, settle, found, stage]
    | waiting => simp [stage, TaskStage.holdsPermit] at holds
    | done report => simp [stage, TaskStage.holdsPermit] at holds
  · have idle : w.held = 0 := List.countP_eq_zero.2 fun t ht holds => busy ⟨t, ht, holds⟩
    obtain ⟨t, ht, undone⟩ : ∃ t ∈ w.tasks, t.stage.isDone = false := by
      simpa using mt remaining_eq_zero_iff.2 left
    obtain ⟨i, found⟩ := List.mem_iff_getElem?.1 ht
    have waits : t.stage = .waiting := by
      cases stage : t.stage with
      | waiting => rfl
      | executing => exact absurd ⟨t, ht, by rw [stage]; rfl⟩ busy
      | reporting report => exact absurd ⟨t, ht, by rw [stage]; rfl⟩ busy
      | done report => simp [stage, TaskStage.isDone] at undone
    refine ⟨.begin i, rfl, ?_⟩
    simp [act?, begin, found, waits, idle, h.some_permit]

/-- A task that is done was run, if it could be, and reported once. -/
theorem Accounted.done (h : Accounted past w) {i : Nat} {t : WorkerTask}
    (found : w.tasks[i]? = some t) (ended : t.stage.isDone = true) :
    ∃ outcome, past.filter (Event.concerns i) = started w.registry i t.descriptor ++
      [.asks i ((w.registry.ending t.descriptor outcome).report t.descriptor.id)] := by
  cases stage : t.stage with
  | done report =>
    obtain ⟨outcome, rfl⟩ := h.own t (List.mem_of_getElem? found) report (by rw [stage]; rfl)
    refine ⟨outcome, ?_⟩
    rw [h.table i]
    simp [historyAt, found, history, stage]
  | waiting => simp [stage, TaskStage.isDone] at ended
  | executing => simp [stage, TaskStage.isDone] at ended
  | reporting report => simp [stage, TaskStage.isDone] at ended

/-- Each task waits, holds a permit or is done. -/
theorem stages_count (w : Worker) :
    (w.tasks.countP fun t => t.stage = .waiting) + w.held +
      (w.tasks.countP fun t => t.stage.isDone) = w.tasks.length := by
  unfold held
  induction w.tasks with
  | nil => rfl
  | cons t tasks ih =>
    cases stage : t.stage <;>
      simp [stage, TaskStage.holdsPermit, TaskStage.isDone] at ih ⊢ <;> omega

/-- The jobs that have arrived are those of the tasks. -/
theorem Accounted.job (h : Accounted past w) (i : Nat) :
    (past.filterMap Event.job?)[i]? = (w.tasks[i]?).map WorkerTask.descriptor := by
  rw [← h.jobs, List.getElem?_map]

/-- What is seen of a place is seen of the job there. -/
theorem Accounted.of_mem (h : Accounted past w) {e : Event} {i : Nat} (he : e ∈ past)
    (concerns : e.concerns i = true) :
    ∃ t, w.tasks[i]? = some t ∧ e ∈ history w.registry i t := by
  have among : e ∈ w.historyAt i := h.table i ▸ List.mem_filter.2 ⟨he, concerns⟩
  unfold historyAt at among
  cases found : w.tasks[i]? with
  | none => simp [found] at among
  | some t =>
    rw [found] at among
    exact ⟨t, rfl, among⟩

/-- A request that is sent is the report of a job that has arrived. -/
theorem Accounted.asks (h : Accounted past w) {i : Nat} {report : AckRequest}
    (sent : .asks i report ∈ past) :
    ∃ d outcome, (past.filterMap Event.job?)[i]? = some d ∧
      report = (w.registry.ending d outcome).report d.id := by
  obtain ⟨t, found, among⟩ := h.of_mem sent (beq_self_eq_true i)
  have own : t.stage.report? = some report := by
    have starts : Event.asks i report ∉ started w.registry i t.descriptor := by
      unfold started
      split <;> simp
    cases stage : t.stage <;> simp [history, stage, starts] at among <;>
      simp [TaskStage.report?, among]
  obtain ⟨outcome, same⟩ := h.own t (List.mem_of_getElem? found) report own
  exact ⟨t.descriptor, outcome, by rw [h.job, found]; rfl, same⟩

/-! ## The worker's life -/

/-- A job ends as it comes out. -/
theorem ending_of_comesOut {σ : Type} {net : Network σ} {c : Client} {r : Registry}
    {d : JobDescriptor} {h h' : Host} {s s' : σ} {outcome : RunOutcome} {tried : List Evidence}
    (comes : ComesOut net c r d h s outcome tried h' s') : r.ending d outcome = outcome := by
  cases comes with
  | unknown nobody => exact if_neg (by simp [Registry.contains, nobody])
  | failed found | panicked found | refused found | fine found =>
    exact if_pos (by simp [Registry.contains, found])

section Life

variable {σ : Type} {net : Network σ} {i : Nat} {t : WorkerTask}

/-- The steps of a task from its permit to the end of its report. -/
theorem follow_task {outcome : RunOutcome} (found : w.tasks[i]? = some t)
    (waits : t.stage = .waiting) (free : w.held < w.permits)
    (own : w.registry.ending t.descriptor outcome = outcome) :
    w.follow [.begin i, .conclude i outcome, .settle i] =
      some (started w.registry i t.descriptor ++ [.asks i (outcome.report t.descriptor.id)],
        w.setStage i t (.done (outcome.report t.descriptor.id))) := by
  let report := outcome.report t.descriptor.id
  have executes := getElem?_setStage found .executing
  have concluded : (w.setStage i t .executing).act? (.conclude i outcome) =
      some (w.setStage i t (.reporting report)) := by
    rw [act?, executes]
    exact (congrArg _ (congrArg _ own)).trans
      (conclude_of_executing found (report_id t.descriptor.id outcome))
  have starts : w.seen (.begin i) = started w.registry i t.descriptor := by simp [seen, found]
  have asks : (w.setStage i t .executing).seen (.conclude i outcome) = [.asks i report] := by
    rw [seen, executes]
    exact congrArg (fun outcome => [Event.asks i (RunOutcome.report t.descriptor.id outcome)]) own
  refine follow_cons_eq_some_iff.2 ⟨_, _, begin_of_waiting found waits free,
    follow_cons_eq_some_iff.2 ⟨_, _, concluded,
      follow_cons_eq_some_iff.2 ⟨_, _, settle_of_reporting found report, rfl, rfl⟩, rfl⟩, ?_⟩
  rw [starts, asks]
  rfl

namespace Site

variable {x x' : Site σ}

/-- A step of a site is one of its worker. -/
theorem worker_step {f : Worker → Option Worker} (went : x.step f = some x') :
    f x.worker = some x'.worker := by
  obtain ⟨w, done, rfl⟩ := Option.map_eq_some_iff.1 went
  exact done

/-- **A task that can begin** runs its job, and reports how that comes out. -/
theorem runTask_of_comesOut {outcome : RunOutcome} {tried : List Evidence} {h' : Host} {s' : σ}
    (found : x.worker.tasks[i]? = some t) (waits : t.stage = .waiting)
    (free : x.worker.held < x.worker.permits)
    (comes : ComesOut net x.worker.client x.worker.registry t.descriptor x.host x.remote outcome
      tried h' s') :
    x.runTask net i =
      some ⟨x.worker.setStage i t (.done (outcome.report t.descriptor.id)), h',
        (x.worker.client.ack net (outcome.report t.descriptor.id) s').2⟩ := by
  have reported : reportOn net (x.worker.setStage i t .executing).client
      (x.worker.setStage i t .executing).registry t.descriptor x.host x.remote =
        (outcome.report t.descriptor.id, h', s') := comes.reportOn
  simp only [runTask, step, begin_of_waiting found waits free, Option.map_some,
    Option.bind_eq_bind, Option.bind_some, getElem?_setStage found, reported,
    conclude_of_executing found (report_id t.descriptor.id outcome), settle_of_reporting found]
  rfl

/-- A task that was run had to wait for its permit, and one was free. -/
theorem begins_of_runTask (went : x.runTask net i = some x') :
    ∃ t, x.worker.tasks[i]? = some t ∧ t.stage = .waiting ∧ x.worker.held < x.worker.permits := by
  obtain ⟨x₁, begun, -⟩ := Option.bind_eq_some_iff.1 went
  obtain ⟨t, found, waits, free, -⟩ := begin_eq_some_iff.1 (worker_step begun)
  exact ⟨t, found, waits, free⟩

/-- **What a task sends** are the requests of the artifacts that it tries, and then the one with its
report. -/
theorem runTask_logged (net : Network σ) (found : w.tasks[i]? = some t)
    (waits : t.stage = .waiting) (free : w.held < w.permits) (h : Host) (s : σ)
    (log : List Http.Request) :
    ∃ outcome tried h' s',
      ComesOut net w.client w.registry t.descriptor h s outcome tried h' s' ∧
      runTask net.logged ⟨w, h, s, log⟩ i =
        some ⟨w.setStage i t (.done (outcome.report t.descriptor.id)), h',
          (w.client.ack net (outcome.report t.descriptor.id) s').2,
          log ++ (w.client.evidenceRequests tried ++
            (w.client.ackRequest? (outcome.report t.descriptor.id)).toList)⟩ := by
  obtain ⟨outcome, tried, h', s', comes⟩ := exists_comesOut net w.client w.registry t.descriptor h s
  have ran := runTask_of_comesOut (x := (⟨w, h, s, log⟩ : Site (σ × List Http.Request))) found waits
    free (comes.logged log)
  refine ⟨outcome, tried, h', s', comes, ?_⟩
  rw [ran, Client.ack_logged, List.append_assoc]

end Site

/-- A relation between a site and what becomes of it: it holds over steps that neither are of a task
nor bring a line, over requests for a stream, over lines that are taken and their jobs run, and over
more of these. -/
structure Covers (net : Network σ) (R : Site σ → Site σ → Prop) : Prop where
  refl (x : Site σ) : R x x
  trans {x x' x'' : Site σ} : R x x' → R x' x'' → R x x''
  quiet {x : Site σ} {a : Action} {w : Worker} : a.isTask = false → a.isLine = false →
    x.worker.act? a = some w → R x { x with worker := w }
  stream (x : Site σ) (modules : List String) (workers : UInt64) :
    R x { x with remote := (x.worker.client.openStream net modules workers x.remote).2 }
  take (x : Site σ) (d : JobDescriptor) : R x (x.take net d)

namespace Covers

variable {R : Site σ → Site σ → Prop} (covers : Covers net R)

include covers

/-- A step of the worker that neither is of a task nor brings a line. -/
theorem step {x x' : Site σ} {a : Action} (other : a.isTask = false)
    (no_line : a.isLine = false) (went : x.step (·.act? a) = some x') : R x x' := by
  obtain ⟨w, acted, rfl⟩ := Option.map_eq_some_iff.1 went
  exact covers.quiet other no_line acted

/-- The lines of a stream are taken one after the other. -/
theorem readStream (now : Timestamp) (fuel : Nat) (stream : JobStream) (x : Site σ) :
    R x (Site.readStream net now fuel stream x) := by
  induction fuel generalizing stream x with
  | zero => exact covers.refl _
  | succ fuel ih =>
    rw [Site.readStream]
    split
    next d stream' _ => exact covers.trans (covers.take x d) (ih stream' (x.take net d))
    next => exact covers.refl _

/-- A connection is asked for, and its stream is read if there is one. -/
theorem session (now : Timestamp) (modules : List String) (x : Site σ) :
    R x (Site.session net now modules x) := by
  have asked := covers.stream x modules (UInt64.ofNat x.worker.permits)
  unfold Site.session
  rcases answer : x.worker.client.openStream net modules (UInt64.ofNat x.worker.permits) x.remote
    with ⟨_ | stream, remote⟩
  · rwa [answer] at asked
  · rw [answer] at asked
    dsimp only at asked ⊢
    split
    next => exact asked
    next x₁ opened =>
      have first : R x x₁ := covers.trans asked (covers.step (a := .opened) rfl rfl opened)
      have read := covers.readStream now (stream.size + 1) stream x₁
      cases ended : (Site.readStream net now (stream.size + 1) stream x₁).step streamEnded with
      | none => exact covers.trans first read
      | some x₂ =>
        exact covers.trans first
          (covers.trans read (covers.step (a := .streamEnded) rfl rfl ended))

/-- **The worker's life** consists of such steps, requests and lines. -/
theorem run (now : Timestamp) (connections : Nat) (x : Site σ) :
    R x (Worker.run net now connections x).2 := by
  unfold Worker.run
  cases x.worker.declared with
  | error e => exact covers.refl _
  | ok modules =>
    have sessions : R x (Nat.repeat (Site.session net now modules) connections x) := by
      induction connections with
      | zero => exact covers.refl _
      | succ n ih =>
        rw [Nat.repeat]
        exact covers.trans ih (covers.session now modules _)
    dsimp only
    generalize Nat.repeat (Site.session net now modules) connections x = last at sessions
    have told : R last { last with worker := last.worker.shutdown } :=
      covers.quiet (a := .shutdown) rfl rfl rfl
    refine covers.trans sessions ?_
    cases stopped : ({ last with worker := last.worker.shutdown } : Site σ).step stop with
    | none => exact told
    | some x' => exact covers.trans told (covers.step (a := .stop) rfl rfl stopped)

end Covers

/-- A relation as in `Covers` that holds over every step that is not of a task, and over every task
that is run from its permit to its report. -/
structure Spans (net : Network σ) (R : Site σ → Site σ → Prop) : Prop where
  refl (x : Site σ) : R x x
  trans {x x' x'' : Site σ} : R x x' → R x' x'' → R x x''
  outside {x : Site σ} {a : Action} {w : Worker} : a.isTask = false → x.worker.act? a = some w →
    R x { x with worker := w }
  stream (x : Site σ) (modules : List String) (workers : UInt64) :
    R x { x with remote := (x.worker.client.openStream net modules workers x.remote).2 }
  task {x x' : Site σ} {i : Nat} : x.runTask net i = some x' → R x x'

/-- To take a line is a step that is not of a task, and then a task that is run. -/
theorem Spans.covers {R : Site σ → Site σ → Prop} (spans : Spans net R) : Covers net R where
  refl := spans.refl
  trans := spans.trans
  quiet other _ went := spans.outside other went
  stream := spans.stream
  take x d := by
    unfold Site.take
    cases received : x.step (·.receive d) with
    | none => exact spans.refl _
    | some x₁ =>
      have first : R x x₁ := by
        obtain ⟨w, acted, rfl⟩ := Option.map_eq_some_iff.1 received
        exact spans.outside (a := .receive d) rfl acted
      dsimp only
      split
      · exact first
      · cases ran : x₁.runTask net (x₁.worker.tasks.length - 1) with
        | none => exact first
        | some x₂ => exact spans.trans first (spans.task ran)

/-- A worker that has permits, and no task that is not done. -/
structure Rests (w : Worker) : Prop where
  some_permit : 0 < w.permits
  done : w.remaining = 0

/-- A worker at rest has a permit for a job that arrives. -/
theorem Rests.free (h : Rests w) : w.held < w.permits := by
  have idle : w.held = 0 := List.countP_eq_zero.2 fun t ht holds => by
    have ended := remaining_eq_zero_iff.1 h.done t ht
    cases stage : t.stage <;>
      simp [stage, TaskStage.isDone, TaskStage.holdsPermit] at ended holds
  rw [idle]
  exact h.some_permit

/-- A job that arrives at a worker at rest is run, and then the worker is at rest again. -/
theorem Rests.runTask (h : Rests w) (net : Network σ) (d : JobDescriptor) (host : Host) (s : σ) :
    ∃ x', Site.runTask net ⟨{ w with tasks := w.tasks ++ [{ descriptor := d }] }, host, s⟩
      w.tasks.length = some x' ∧ Rests x'.worker := by
  let w₁ : Worker := { w with tasks := w.tasks ++ [{ descriptor := d }] }
  have found : w₁.tasks[w.tasks.length]? = some { descriptor := d } := List.getElem?_concat_length
  have free : w₁.held < w₁.permits := by
    have same : w₁.held = w.held := by simp [w₁, held, TaskStage.holdsPermit]
    rw [same]
    exact h.free
  -- the job is the only one that is not done, and all its three steps are taken
  have left : w₁.remaining = 3 := by
    rw [remaining, List.map_append, List.sum_append, ← remaining, h.done]
    rfl
  obtain ⟨outcome, tried, h', s', comes⟩ := exists_comesOut net w₁.client w₁.registry d host s
  have ended := remaining_setStage found (.done (outcome.report d.id))
  rw [left] at ended
  exact ⟨_, Site.runTask_of_comesOut (x := ⟨w₁, host, s⟩) found rfl free comes, h.some_permit,
    Nat.add_right_cancel ended⟩

/-- **A job that is taken is reported** before the next line is taken. -/
theorem Rests.take {x : Site σ} (h : Rests x.worker) (net : Network σ) (d : JobDescriptor) :
    Rests (x.take net d).worker := by
  unfold Site.take
  cases received : x.step (·.receive d) with
  | none => exact h
  | some x₁ =>
    obtain ⟨w₁, acted, rfl⟩ := Option.map_eq_some_iff.1 received
    obtain ⟨-, came⟩ := Option.ite_none_right_eq_some.1 acted
    cases sign : d.isKeepAlive with
    | true =>
      rw [sign] at came
      obtain rfl := Option.some.inj came
      exact h
    | false =>
      rw [sign] at came
      obtain rfl := Option.some.inj came
      obtain ⟨x', ran, rests⟩ := h.runTask net d x.host x.remote
      simpa [ran] using rests

/-- A worker that is at rest is so after all its life. -/
theorem covers_rests (net : Network σ) :
    Covers net fun x x' => Rests x.worker → Rests x'.worker where
  refl _ h := h
  trans first more h := more (first h)
  quiet := by
    intro x a w other no_line went h
    have step := step_of_act? went
    generalize x.worker.seen a = events at step
    cases step with
    | phase goes => exact ⟨h.some_permit, h.done⟩
    | lives | arrives => cases no_line
    | task found goes => exact absurd (goes.isTask.symm.trans other) (by decide)
  stream _ _ _ h := h
  take x d h := h.take net d

/-- What is seen of a worker that takes one job after the other, and the requests that it sends
meanwhile: streams are asked for, and each job has the requests of the artifacts that it tries and
then the one with the report that is seen. -/
inductive Sends (net : Network σ) (c : Client) (r : Registry) :
    List Event → List Http.Request → Prop
  | nil : Sends net c r [] []
  | stream {events : List Event} {requests : List Http.Request}
      (before : Sends net c r events requests) (modules : List String) (workers : UInt64) :
      Sends net c r events (requests ++ (c.streamRequest? modules workers).toList)
  | line {events : List Event} {requests : List Http.Request}
      (before : Sends net c r events requests) (d : JobDescriptor) :
      Sends net c r (events ++ [.received d]) requests
  | job {events : List Event} {requests : List Http.Request}
      (before : Sends net c r events requests) (i : Nat) {d : JobDescriptor} {h h' : Host}
      {s s' : σ} {outcome : RunOutcome} {tried : List Evidence}
      (comes : ComesOut net c r d h s outcome tried h' s') :
      Sends net c r (events ++ (started r i d ++ [.asks i (outcome.report d.id)]))
        (requests ++ (c.evidenceRequests tried ++ (c.ackRequest? (outcome.report d.id)).toList))

/-- What is seen and sent later comes behind. -/
theorem Sends.append {c : Client} {r : Registry} {later : List Event}
    {requests more : List Http.Request} (before : Sends net c r events requests)
    (goes : Sends net c r later more) : Sends net c r (events ++ later) (requests ++ more) := by
  induction goes with
  | nil =>
    rw [List.append_nil, List.append_nil]
    exact before
  | stream _ modules workers ih =>
    rw [← List.append_assoc]
    exact ih.stream modules workers
  | line _ d ih =>
    rw [← List.append_assoc]
    exact ih.line d
  | job _ i comes ih =>
    have later := ih.job i comes
    rwa [List.append_assoc, List.append_assoc] at later

/-- The second site comes from the first by some steps of the worker, and the requests that it has
sent meanwhile are kept. -/
def Site.Tells (net : Network σ) (x x' : Site (σ × List Http.Request)) : Prop :=
  ∃ actions events requests, x.worker.follow actions = some (events, x'.worker) ∧
    Sends net x.worker.client x.worker.registry events requests ∧
    x'.remote.2 = x.remote.2 ++ requests

/-- **The worker's life** is a run of its steps, and what it sends is what is seen of it. -/
theorem spans_tells (net : Network σ) : Spans net.logged (Site.Tells net) where
  refl x := ⟨[], [], [], rfl, .nil, (List.append_nil _).symm⟩
  trans := by
    rintro x x' x'' ⟨actions, events, requests, went, sent, kept⟩
      ⟨more, later, requests', goes, sends, keeps⟩
    obtain ⟨client, registry, -⟩ := fixed_follow went
    rw [client, registry] at sends
    exact ⟨_, _, _, follow_append went goes, sent.append sends,
      by rw [keeps, kept, List.append_assoc]⟩
  outside := by
    intro x a w other went
    have silent : Sends net x.worker.client x.worker.registry (x.worker.seen a) [] := by
      cases a with
      | receive d => exact .line .nil d
      | begin | conclude | settle => cases other
      | _ => exact .nil
    exact ⟨[a], x.worker.seen a, [], follow_cons_eq_some_iff.2
      ⟨w, [], went, rfl, (List.append_nil _).symm⟩, silent, (List.append_nil _).symm⟩
  stream x modules workers := by
    obtain ⟨w, h, s, log⟩ := x
    refine ⟨[], [], _, rfl, .stream .nil modules workers, ?_⟩
    rw [Client.openStream_logged, List.nil_append]
  task := by
    rintro ⟨w, h, s, log⟩ x' i went
    obtain ⟨t, found, waits, free⟩ := Site.begins_of_runTask went
    obtain ⟨outcome, tried, h', s', comes, ran⟩ := Site.runTask_logged net found waits free h s log
    obtain rfl := Option.some.inj (ran.symm.trans went)
    exact ⟨_, _, _, follow_task found waits free (ending_of_comesOut comes), .job .nil i comes, rfl⟩

end Life

/-! ## The main statement -/

/-- **The jobs of a worker are accounted for.**  Take a worker for so many jobs at once, and what
was seen of it after any steps in any order, over any number of streams.

* No more modules run than jobs are allowed at once, and one if none are.
* The tasks are the jobs that have arrived, each once, without the signs of life; each of them
  waits, holds a permit or is done.
* What was seen of each task is what its stage says; of other places nothing was seen.
* A request that was sent is about the job of its place, as its module ended, or that there is no
  such module.
* Whatever the streams do, the tasks can go on as long as one is not done; in whichever order they
  do, all are done after as many steps as are left, and then each job was run, if it could be, and
  after that reported, once.
* The worker's own life, that takes one job after the other, consists of such steps.  The requests
  that it sends are those for streams and, of each job, those of its artifacts and then the one with
  the report that was seen.  No job that it has taken is left at its end. -/
theorem jobs_accounted {client : Client} {registry : Registry} {concurrency : Nat}
    {w₀ : Worker} (made : create? client registry concurrency = some w₀)
    (went : w₀.follow actions = some (events, w)) :
    (w.tasks.countP (fun t => t.stage = .executing) ≤ w.held ∧ w.held ≤ max 1 concurrency) ∧
    (w.tasks.map WorkerTask.descriptor = events.filterMap Event.job? ∧
      (w.tasks.countP fun t => t.stage = .waiting) + w.held +
        (w.tasks.countP fun t => t.stage.isDone) = (events.filterMap Event.job?).length) ∧
    (∀ i, events.filter (Event.concerns i) =
      match w.tasks[i]? with
      | some t => history registry i t
      | none => []) ∧
    (∀ i report, .asks i report ∈ events →
      ∃ d outcome, (events.filterMap Event.job?)[i]? = some d ∧
        report = (registry.ending d outcome).report d.id) ∧
    (∀ more later w', w.follow more = some (later, w') → (∀ a ∈ more, a.isTask = true) →
      more.length + w'.remaining = w.remaining ∧
      (w'.remaining ≠ 0 → ∃ a, a.isTask = true ∧ (w'.act? a).isSome = true) ∧
      (w'.remaining = 0 → ∀ i d, (events.filterMap Event.job?)[i]? = some d →
        ∃ outcome, (events ++ later).filter (Event.concerns i) =
          started registry i d ++ [.asks i ((registry.ending d outcome).report d.id)])) ∧
    ∀ {σ : Type} (net : Network σ) (now : Timestamp) (connections : Nat) (h : Host) (s : σ)
      (log : List Http.Request),
      let life := (run net.logged now connections ⟨w, h, s, log⟩).2
      (∃ actions later requests, w.follow actions = some (later, life.worker) ∧
        Sends net client registry later requests ∧ life.remote.2 = log ++ requests) ∧
      (w.remaining = 0 → life.worker.remaining = 0) := by
  have accounted : Accounted events w := (accounted_create? made).follow went
  obtain ⟨rfl, rfl, permits⟩ :
      w.client = client ∧ w.registry = registry ∧ w.permits = max 1 concurrency := by
    obtain ⟨-, made⟩ := Option.ite_none_left_eq_some.1 made
    obtain rfl := Option.some.inj made
    exact fixed_follow went
  refine ⟨⟨?_, permits ▸ accounted.bounded⟩, ⟨accounted.jobs, ?_⟩, accounted.table,
    fun i report sent => accounted.asks sent, fun more later w' goes tasks => ?_,
    fun net now connections h s log =>
      ⟨(spans_tells net).covers.run now connections ⟨w, h, s, log⟩, fun done =>
        ((covers_rests net.logged).run now connections ⟨w, h, s, log⟩
          ⟨accounted.some_permit, done⟩).done⟩⟩
  · refine List.countP_mono_left fun t _ runs => ?_
    rw [of_decide_eq_true runs]
    rfl
  · rw [stages_count, ← accounted.jobs, List.length_map]
  · obtain ⟨left, silent⟩ := remaining_of_tasks goes tasks
    have after := accounted.follow goes
    refine ⟨left, after.unstuck, fun none i d arrived => ?_⟩
    have job : (w'.tasks[i]?).map WorkerTask.descriptor = some d := by
      rw [← after.job i, List.filterMap_append, silent, List.append_nil, arrived]
    obtain ⟨t, found, rfl⟩ := Option.map_eq_some_iff.1 job
    have ended := remaining_eq_zero_iff.1 none t (List.mem_of_getElem? found)
    rw [← (fixed_follow goes).2.1]
    exact after.done found ended

/-- A registry with one module, that any item suits. -/
def loneRegistry : Registry where
  modules := [{ name := "Hayabusa", description := "", supports := fun _ => true,
                check := fun h => (.ok (), h), run := fun _ h => (.panicked, h) }]

/-- A worker gets a job and loses the stream while its module runs.  By the next stream comes a job
that it has no module for, and gets the permit when the first was reported. -/
def reconnecting : List Action :=
  [.opened, .receive (.keepAlive "w"), .receive ⟨"first", "w", "Hayabusa", none, none⟩,
    .begin 0, .streamEnded, .opened, .receive ⟨"second", "ww", "Plaso", none, none⟩,
    .conclude 0 (.error "module panicked"), .settle 0, .begin 1]

/-- There is one permit, though none were asked for.  The first job was run and reported, and the
second comes to its report, on the job and without a run. -/
theorem jobs_accounted_reconnecting :
    ∃ w₀ events w, create? ⟨"http://localhost", none⟩ loneRegistry 0 = some w₀ ∧
      w₀.follow reconnecting = some (events, w) ∧ w.held ≤ 1 ∧
      events.filter (Event.concerns 0) =
        [.starts 0 ⟨"first", "w", "Hayabusa", none, none⟩,
          .asks 0 (.failed "first" "module panicked")] ∧
      ∃ later w', w.follow [.conclude 1 (.ok ()), .settle 1] = some (later, w') ∧
        ∃ outcome, (events ++ later).filter (Event.concerns 1) =
          [.asks 1 ((loneRegistry.ending ⟨"second", "ww", "Plaso", none, none⟩ outcome).report
            "second")] := by
  let w₀ : Worker :=
    { client := ⟨"http://localhost", none⟩, registry := loneRegistry, permits := 1 }
  let tasks (second : TaskStage) : List WorkerTask :=
    [⟨⟨"first", "w", "Hayabusa", none, none⟩, .done (.failed "first" "module panicked")⟩,
      ⟨⟨"second", "ww", "Plaso", none, none⟩, second⟩]
  have made : create? ⟨"http://localhost", none⟩ loneRegistry 0 = some w₀ := rfl
  have went : w₀.follow reconnecting = some
      ([.received (.keepAlive "w"), .received ⟨"first", "w", "Hayabusa", none, none⟩,
        .starts 0 ⟨"first", "w", "Hayabusa", none, none⟩,
        .received ⟨"second", "ww", "Plaso", none, none⟩,
        .asks 0 (.failed "first" "module panicked")],
      { w₀ with phase := .reading, tasks := tasks .executing }) := rfl
  obtain ⟨⟨-, permits⟩, -, table, -, goesOn, -⟩ := jobs_accounted made went
  let complaint := (loneRegistry.ending ⟨"second", "ww", "Plaso", none, none⟩ (.ok ())).report
    "second"
  have later : follow { w₀ with phase := .reading, tasks := tasks .executing }
      [.conclude 1 (.ok ()), .settle 1] = some ([.asks 1 complaint],
        { w₀ with phase := .reading, tasks := tasks (.done complaint) }) := rfl
  obtain ⟨-, -, ended⟩ := goesOn _ _ _ later (by decide)
  exact ⟨w₀, _, _, made, went, permits, table 0, _, _, later,
    ended rfl 1 ⟨"second", "ww", "Plaso", none, none⟩ rfl⟩

end Worker
end Casework
