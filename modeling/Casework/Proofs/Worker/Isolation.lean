/-
# Jobs do not spoil each other

The tasks of a worker take turns in any order, and between two turns of one of them the others may
have done anything to the host and to what lies behind the network.  What a task hears of all that
are answers: how its module ended, and what became of each artifact that it sent.

| the task | hears | and then |
| --- | --- | --- |
| whose module runs | how that ends | registers what the module made, or has failed |
| that registers an artifact | whether it is taken | goes on with the next, or has failed |
| that has nothing left, or has failed | nothing more | reports, and is done |

How far a task has come is what it made of its own answers (`Bench.Tracks`), so what it reports is
decided by them (`Heard.eq_foldl`), and two tasks for the same job that hear the same report the
same, whatever goes on around them.  A job that is left alone comes out as `reportOn` says
(`reaches_reportOn`).  On the network it leaves the requests of its artifacts, and then the one
with its report (`Worker.Site.runTask_logged`).  The worker's life is made of such turns
(`spans_reaches`).  `outcomes_right` puts the parts together.
-/

import Casework.Proofs.Worker.Accounting
import Casework.Proofs.Worker.Outcomes

namespace Casework

/-- What a task hears of the world. -/
inductive Answer where
  /-- Its module has ended. -/
  | ended (result : RunResult)
  /-- The next of its artifacts was sent. -/
  | registered (answer : Except Error Unit)

/-- How far a task with a permit has come. -/
inductive Progress where
  /-- Its module runs. -/
  | running
  /-- These artifacts are left to be registered. -/
  | registering (left : List Evidence)
  | failed (text : String)

namespace Progress

/-- How a task begins that gets its permit. -/
def start (r : Registry) (d : JobDescriptor) : Progress :=
  if r.contains d.name then .running else .failed (ModuleError.notConfigured d.name).message

/-- What a task makes of an answer. -/
def hear : Progress → Answer → Progress
  | .running, .ended (.done artifacts) => .registering artifacts
  | .running, .ended (.failed err) => .failed err.message
  | .running, .ended .panicked => .failed "module panicked"
  | .registering (_ :: es), .registered (.ok ()) => .registering es
  | .registering (e :: _), .registered (.error err) =>
    .failed ("failed to register artifact " ++ e.name ++ ": " ++ err.message)
  | p, _ => p

/-- How a task comes out that has nothing left to do. -/
def outcome? : Progress → Option RunOutcome
  | .registering [] => some (.ok ())
  | .failed text => some (.error text)
  | _ => none

end Progress

/-- What a task for a job has heard, and how far it has come by that. -/
inductive Heard (r : Registry) (d : JobDescriptor) : List Answer → Progress → Prop
  | unknown (nobody : r.find? d.name = none) :
      Heard r d [] (.failed ("module " ++ d.name ++ " is not configured on this worker"))
  | running {m : Module} (found : r.find? d.name = some m) : Heard r d [] .running
  | failed {m : Module} (found : r.find? d.name = some m) (err : ModuleError) :
      Heard r d [.ended (.failed err)] (.failed err.message)
  | panicked {m : Module} (found : r.find? d.name = some m) :
      Heard r d [.ended .panicked] (.failed "module panicked")
  | registering {m : Module} (found : r.find? d.name = some m) (front left : List Evidence) :
      Heard r d (.ended (.done (front ++ left)) ::
        List.replicate front.length (.registered (.ok ()))) (.registering left)
  | refused {m : Module} (found : r.find? d.name = some m) (front back : List Evidence)
      (e : Evidence) (err : Error) :
      Heard r d (.ended (.done (front ++ e :: back)) ::
          (List.replicate front.length (.registered (.ok ())) ++ [.registered (.error err)]))
        (.failed ("failed to register artifact " ++ e.name ++ ": " ++ err.message))

/-! ## Answers -/

section Answers

variable {r : Registry} {d : JobDescriptor} {own : List Answer} {p : Progress}

/-- Who has heard nothing stands where a task begins. -/
theorem heard_start (r : Registry) (d : JobDescriptor) : Heard r d [] (.start r d) := by
  unfold Progress.start
  cases found : r.find? d.name with
  | none =>
    rw [if_neg (by simp [Registry.contains, found])]
    exact .unknown found
  | some m =>
    rw [if_pos (by simp [Registry.contains, found])]
    exact .running found

/-- The end of the module is the first that a task hears. -/
theorem Heard.ended (h : Heard r d own .running) (result : RunResult) :
    Heard r d (own ++ [.ended result]) (Progress.running.hear (.ended result)) := by
  cases h with
  | running found =>
    cases result with
    | done artifacts => exact .registering found [] artifacts
    | failed err => exact .failed found err
    | panicked => exact .panicked found

/-- After that it hears of its artifacts, up to the first that is refused. -/
theorem Heard.registered {e : Evidence} {es : List Evidence}
    (h : Heard r d own (.registering (e :: es))) (answer : Except Error Unit) :
    Heard r d (own ++ [.registered answer])
      ((Progress.registering (e :: es)).hear (.registered answer)) := by
  cases h with
  | registering found front _ =>
    cases answer with
    | error err => exact .refused found front es e err
    | ok =>
      have longer := Heard.registering found (front ++ [e]) es
      rw [List.append_assoc, List.singleton_append, List.length_append, List.length_singleton,
        List.replicate_succ'] at longer
      exact longer

/-- Artifacts that are taken are out of the way. -/
theorem foldl_hear_taken (front left : List Evidence) :
    (List.replicate front.length (.registered (.ok ()))).foldl Progress.hear
      (.registering (front ++ left)) = .registering left := by
  induction front with
  | nil => rfl
  | cons e front ih => exact ih

/-- **What a task has heard** decides how far it has come. -/
theorem Heard.eq_foldl (h : Heard r d own p) : p = own.foldl Progress.hear (.start r d) := by
  have start {m : Module} (found : r.find? d.name = some m) : Progress.start r d = .running :=
    if_pos (by simp [Registry.contains, found])
  cases h with
  | unknown nobody => exact (if_neg (by simp [Registry.contains, nobody])).symm
  | running found => rw [List.foldl_nil, start found]
  | failed found err => rw [start found]; rfl
  | panicked found => rw [start found]; rfl
  | registering found front left =>
    rw [start found]
    exact (foldl_hear_taken front left).symm
  | refused found front back e err =>
    rw [start found, List.foldl_cons, List.foldl_append, Progress.hear, foldl_hear_taken]
    rfl

end Answers

/-! ## Turns -/

/-- A worker, and how far its tasks have come. -/
structure Bench where
  worker : Worker
  progress : ℕ → Progress := fun _ => .running

namespace Bench

/-- A turn, with what a task hears in it: the worker takes a step that is not one of a task, or a
task takes one, in a world that may have changed in any way since its last one. -/
inductive Step (b : Bench) : List (ℕ × Answer) → Bench → Prop
  | outside {a : Worker.Action} {w : Worker} (other : a.isTask = false)
      (went : b.worker.act? a = some w) : Step b [] { b with worker := w }
  | begins {i : ℕ} {t : WorkerTask} {w : Worker} (found : b.worker.tasks[i]? = some t)
      (went : b.worker.begin i = some w) :
      Step b [] ⟨w, Function.update b.progress i (.start w.registry t.descriptor)⟩
  | ends {i : ℕ} {t : WorkerTask} {m : Module} (found : b.worker.tasks[i]? = some t)
      (executes : t.stage = .executing) (runs : b.progress i = .running)
      (own : b.worker.registry.find? t.descriptor.name = some m) (h : Host) :
      Step b [(i, .ended (m.run t.descriptor h).1)]
        ⟨b.worker, Function.update b.progress i
          ((b.progress i).hear (.ended (m.run t.descriptor h).1))⟩
  | registers {i : ℕ} {t : WorkerTask} {e : Evidence} {es : List Evidence}
      (found : b.worker.tasks[i]? = some t) (executes : t.stage = .executing)
      (left : b.progress i = .registering (e :: es)) {σ : Type} (net : Network σ) (s : σ) :
      Step b [(i, .registered (b.worker.client.registerEvidence net e s).1)]
        ⟨b.worker, Function.update b.progress i
          ((b.progress i).hear (.registered (b.worker.client.registerEvidence net e s).1))⟩
  | concludes {i : ℕ} {t : WorkerTask} {outcome : RunOutcome} {w : Worker}
      (found : b.worker.tasks[i]? = some t) (ended : (b.progress i).outcome? = some outcome)
      (went : b.worker.conclude i (outcome.report t.descriptor.id) = some w) :
      Step b [] { b with worker := w }
  | settles {i : ℕ} {w : Worker} (went : b.worker.settle i = some w) :
      Step b [] { b with worker := w }

/-- Turn after turn, with all that is heard. -/
inductive Runs : Bench → List (ℕ × Answer) → Bench → Prop
  | refl (b : Bench) : Runs b [] b
  | step {b b' b'' : Bench} {heard heard' : List (ℕ × Answer)} (before : Runs b heard b')
      (goes : Step b' heard' b'') : Runs b (heard ++ heard') b''

/-- What the task at a place has heard. -/
def heardBy (i : ℕ) (heard : List (ℕ × Answer)) : List Answer :=
  heard.filterMap fun (j, answer) => if j = i then some answer else none

/-- A task stands where it must by what it has heard, and reports nothing else. -/
def Consistent (r : Registry) (own : List Answer) (p : Progress) (t : WorkerTask) : Prop :=
  match t.stage with
  | .waiting => own = []
  | .executing => Heard r t.descriptor own p
  | .reporting report | .done report =>
    ∃ p outcome, Heard r t.descriptor own p ∧ p.outcome? = some outcome ∧
      report = outcome.report t.descriptor.id

/-- Every task stands where it must, and nobody else has heard anything. -/
structure Tracks (heard : List (ℕ × Answer)) (b : Bench) : Prop where
  task (i : ℕ) (t : WorkerTask) : b.worker.tasks[i]? = some t →
    Consistent b.worker.registry (heardBy i heard) (b.progress i) t
  nobody (i : ℕ) : b.worker.tasks[i]? = none → heardBy i heard = []

variable {heard heard' : List (ℕ × Answer)} {b b' b'' : Bench} {i : ℕ} {t : WorkerTask}

/-- What a task hears later comes behind what it has heard. -/
theorem heardBy_append (i : ℕ) (heard heard' : List (ℕ × Answer)) :
    heardBy i (heard ++ heard') = heardBy i heard ++ heardBy i heard' :=
  List.filterMap_append

/-- What one task hears it hears. -/
theorem heardBy_self (i : ℕ) (answers : List Answer) :
    heardBy i (answers.map (i, ·)) = answers := by
  simp [heardBy, List.filterMap_map]

/-- What one task hears the others do not. -/
theorem heardBy_of_ne {i j : ℕ} (other : j ≠ i) (answers : List Answer) :
    heardBy j (answers.map (i, ·)) = [] := by
  simp [heardBy, other.symm]

/-- **A turn of one task** leaves the others where they are. -/
theorem Tracks.set (h : Tracks heard b) (found : b.worker.tasks[i]? = some t)
    (stage : TaskStage) (p : Progress) (answers : List Answer)
    (own : Consistent b.worker.registry (heardBy i heard ++ answers) p { t with stage := stage }) :
    Tracks (heard ++ answers.map (i, ·))
      ⟨b.worker.setStage i t stage, Function.update b.progress i p⟩ := by
  have inside : i < b.worker.tasks.length := (List.getElem?_eq_some_iff.1 found).1
  constructor
  · intro j t' found'
    by_cases same : j = i
    · subst same
      obtain rfl : { t with stage := stage } = t' := by
        simpa [Worker.setStage, inside] using found'
      dsimp only
      rw [heardBy_append, heardBy_self, Function.update_self]
      exact own
    · have before : b.worker.tasks[j]? = some t' := by
        rwa [Worker.setStage, List.getElem?_set_ne (Ne.symm same)] at found'
      dsimp only
      rw [heardBy_append, heardBy_of_ne same, List.append_nil, Function.update_of_ne same]
      exact h.task j t' before
  · intro j nobody
    have other : j ≠ i := by
      rintro rfl
      simp [Worker.setStage, inside] at nobody
    rw [heardBy_append, heardBy_of_ne other, List.append_nil]
    refine h.nobody j ?_
    rwa [Worker.setStage, List.getElem?_set_ne (Ne.symm other)] at nobody

/-- A turn in which a task hears something and its stage stays. -/
theorem Tracks.hears (h : Tracks heard b) (found : b.worker.tasks[i]? = some t)
    (executes : t.stage = .executing) (answer : Answer) (p : Progress)
    (own : Heard b.worker.registry t.descriptor (heardBy i heard ++ [answer]) p) :
    Tracks (heard ++ [(i, answer)]) ⟨b.worker, Function.update b.progress i p⟩ := by
  have same : b.worker.setStage i t .executing = b.worker := by
    obtain ⟨inside, rfl⟩ := List.getElem?_eq_some_iff.1 found
    rw [Worker.setStage, ← executes, List.set_getElem_self]
  have after := h.set found .executing p [answer] own
  rwa [same] at after

/-- What a task that executes has heard is how far it has come. -/
theorem Tracks.executing (h : Tracks heard b) (found : b.worker.tasks[i]? = some t)
    (executes : t.stage = .executing) :
    Heard b.worker.registry t.descriptor (heardBy i heard) (b.progress i) := by
  have own := h.task i t found
  rwa [Consistent, executes] at own

/-- Steps of the worker that are not of a task let no task hear anything. -/
theorem Tracks.outside (h : Tracks heard b) {a : Worker.Action} {w : Worker}
    (other : a.isTask = false) (went : b.worker.act? a = some w) :
    Tracks heard { b with worker := w } := by
  have step := Worker.step_of_act? went
  generalize b.worker.seen a = events at step
  cases step with
  | phase goes => exact ⟨h.task, h.nobody⟩
  | lives sign reads => exact h
  | task found goes => exact absurd (goes.isTask.symm.trans other) (by decide)
  | arrives real reads =>
    rename_i d
    constructor
    · intro i t found
      obtain inside | outside := Nat.lt_or_ge i b.worker.tasks.length
      · refine h.task i t ?_
        rwa [List.getElem?_append_left inside] at found
      · have nothing := h.nobody i (List.getElem?_eq_none outside)
        rw [List.getElem?_append_right outside] at found
        obtain rfl := List.mem_singleton.1 (List.mem_of_getElem? found)
        exact nothing
    · intro i nobody
      refine h.nobody i (List.getElem?_eq_none ?_)
      have longer := List.getElem?_eq_none_iff.1 nobody
      rw [List.length_append] at longer
      omega

/-- **Every turn** keeps the tasks where they must stand. -/
theorem Tracks.step (h : Tracks heard b) (goes : Step b heard' b') :
    Tracks (heard ++ heard') b' := by
  cases goes with
  | outside other went =>
    rw [List.append_nil]
    exact h.outside other went
  | @begins i t w found went =>
    obtain ⟨_, found', waits, free, rfl⟩ := Worker.begin_eq_some_iff.1 went
    obtain rfl := Option.some.inj (found.symm.trans found')
    -- who waits has heard nothing, so what it hears from now on is all that it hears
    have silent := h.task i t found
    rw [Consistent, waits] at silent
    refine h.set found .executing _ [] ?_
    rw [silent]
    exact heard_start b.worker.registry t.descriptor
  | @ends i t m found executes runs own host =>
    have own := h.executing found executes
    rw [runs] at own ⊢
    exact h.hears found executes _ _ (own.ended _)
  | @registers i t e es found executes left σ net s =>
    have own := h.executing found executes
    rw [left] at own ⊢
    exact h.hears found executes _ _ (own.registered _)
  | @concludes i t outcome w found ended went =>
    obtain ⟨_, found', executes, -, rfl⟩ := Worker.conclude_eq_some_iff.1 went
    obtain rfl := Option.some.inj (found.symm.trans found')
    -- the stage changes and the progress does not, which `set` takes as an update with itself
    have after := h.set found (.reporting (outcome.report t.descriptor.id)) (b.progress i) []
      ⟨b.progress i, outcome, by simpa using h.executing found executes, ended, rfl⟩
    rwa [Function.update_eq_self] at after
  | @settles i w went =>
    obtain ⟨t, report, found, sends, rfl⟩ := Worker.settle_eq_some_iff.1 went
    have own := h.task i t found
    rw [Consistent, sends] at own
    have after := h.set found (.done report) (b.progress i) [] (by simpa [Consistent] using own)
    rwa [Function.update_eq_self] at after

/-- **All turns** keep the tasks where they must stand. -/
theorem Tracks.runs (h : Tracks heard b) (runs : Runs b heard' b') :
    Tracks (heard ++ heard') b' := by
  induction runs with
  | refl => rwa [List.append_nil]
  | step before goes ih =>
    rw [← List.append_assoc]
    exact ih.step goes

/-- A worker that has just been made has no tasks that could stand elsewhere. -/
theorem tracks_create? {client : Client} {registry : Registry} {concurrency : ℕ} {w : Worker}
    (made : Worker.create? client registry concurrency = some w) (progress : ℕ → Progress) :
    Tracks [] ⟨w, progress⟩ := by
  obtain ⟨-, made⟩ := Option.ite_none_left_eq_some.1 made
  obtain rfl := Option.some.inj made
  refine ⟨fun i t found => ?_, fun _ _ => rfl⟩
  cases found

/-! ## One task alone -/

/-- Turns after turns are turns. -/
theorem Runs.trans (runs : Runs b heard b') (more : Runs b' heard' b'') :
    Runs b (heard ++ heard') b'' := by
  induction more with
  | refl => rwa [List.append_nil]
  | step before goes ih =>
    rw [← List.append_assoc]
    exact ih.step goes

/-- One turn is a run. -/
theorem Step.runs (goes : Step b heard b') : Runs b heard b' := (Runs.refl b).step goes

section Alone

variable {σ : Type} {net : Network σ} {s s' : σ} {w : Worker} {progress : ℕ → Progress}
  {outcome : RunOutcome}

/-- The module of a task ends in some way. -/
theorem step_ended {m : Module} {result : RunResult} {h h' : Host}
    (found : w.tasks[i]? = some t) (executes : t.stage = .executing)
    (runs : progress i = .running) (known : w.registry.find? t.descriptor.name = some m)
    (ran : m.run t.descriptor h = (result, h')) : Step ⟨w, progress⟩ [(i, .ended result)]
      ⟨w, Function.update progress i (Progress.running.hear (.ended result))⟩ := by
  have goes := @Step.ends ⟨w, progress⟩ i t m found executes runs known h
  dsimp only at goes
  rwa [ran, runs] at goes

/-- The next artifact of a task is sent, and is taken or not. -/
theorem step_registered {e : Evidence} {es : List Evidence} {answer : Except Error Unit}
    (found : w.tasks[i]? = some t) (executes : t.stage = .executing)
    (left : progress i = .registering (e :: es))
    (sent : w.client.registerEvidence net e s = (answer, s')) :
    Step ⟨w, progress⟩ [(i, .registered answer)] ⟨w, Function.update progress i
      ((Progress.registering (e :: es)).hear (.registered answer))⟩ := by
  have goes := @Step.registers ⟨w, progress⟩ i t e es found executes left σ net s
  dsimp only at goes
  rwa [sent, left] at goes

/-- Artifacts that are taken are registered one after the other. -/
theorem runs_registers {front back : List Evidence} (found : w.tasks[i]? = some t)
    (executes : t.stage = .executing) (taken : w.client.Registers net front s s')
    (left : progress i = .registering (front ++ back)) :
    ∃ heard, Runs ⟨w, progress⟩ heard ⟨w, Function.update progress i (.registering back)⟩ := by
  -- on what is taken, artifact by artifact: each is one turn
  induction taken generalizing progress with
  | nil s =>
    rw [← List.nil_append back, ← left, Function.update_eq_self]
    exact ⟨_, .refl _⟩
  | @cons e es s s' s'' taken rest ih =>
    have sends := step_registered found executes left taken
    have next : Function.update progress i (.registering (es ++ back)) i =
      .registering (es ++ back) := Function.update_self ..
    obtain ⟨heard, others⟩ := ih next
    rw [Function.update_idem] at others
    exact ⟨_, sends.runs.trans others⟩

/-- **A task that goes on alone** comes to the outcome of its job. -/
theorem runs_comesOut {h h' : Host} {tried : List Evidence} (found : w.tasks[i]? = some t)
    (executes : t.stage = .executing)
    (comes : ComesOut net w.client w.registry t.descriptor h s outcome tried h' s')
    (starts : progress i = .start w.registry t.descriptor) :
    ∃ heard p, Runs ⟨w, progress⟩ heard ⟨w, Function.update progress i p⟩ ∧
      p.outcome? = some outcome := by
  have runs {m : Module} (known : w.registry.find? t.descriptor.name = some m) :
      progress i = .running :=
    starts.trans (if_pos (by simp [Registry.contains, known]))
  -- what is left when the module has come to its end
  have ended {m : Module} {artifacts : List Evidence} {h' : Host}
      (known : w.registry.find? t.descriptor.name = some m)
      (ran : m.run t.descriptor h = (.done artifacts, h')) :=
    step_ended found executes (runs known) known ran
  have left (artifacts : List Evidence) :
      Function.update progress i (.registering artifacts) i = .registering artifacts :=
    Function.update_self ..
  cases comes with
  | unknown nobody =>
    refine ⟨[], progress i, by rw [Function.update_eq_self]; exact .refl _, ?_⟩
    rw [starts, Progress.start, if_neg (by simp [Registry.contains, nobody])]
    rfl
  | failed known ran =>
    exact ⟨_, _, (step_ended found executes (runs known) known ran).runs, rfl⟩
  | panicked known ran =>
    exact ⟨_, _, (step_ended found executes (runs known) known ran).runs, rfl⟩
  | @refused m h' front back e err s' s'' known ran taken refused =>
    obtain ⟨heard, others⟩ := runs_registers found executes taken (left (front ++ e :: back))
    have sends := step_registered found executes (left (e :: back)) refused
    rw [Function.update_idem] at others sends
    exact ⟨_, _, ((ended known ran).runs.trans others).trans sends.runs, rfl⟩
  | fine known ran taken =>
    obtain ⟨heard, others⟩ := runs_registers found executes taken (left (tried ++ []))
    rw [Function.update_idem, List.append_nil] at others
    exact ⟨_, _, (ended known ran).runs.trans others, rfl⟩

/-- The second worker comes from the first by some turns, however far the tasks had come. -/
def Reaches (w w' : Worker) : Prop :=
  ∀ progress, ∃ heard progress', Runs ⟨w, progress⟩ heard ⟨w', progress'⟩

/-- **A job that is left alone** is reported on as if there were no others. -/
theorem reaches_reportOn (found : w.tasks[i]? = some t) (waits : t.stage = .waiting)
    (free : w.held < w.permits) (net : Network σ) (h : Host) (s : σ) :
    Reaches w (w.setStage i t (.done
      (reportOn net w.client w.registry t.descriptor h s).1)) := by
  intro progress
  obtain ⟨outcome, tried, h', s', comes⟩ := exists_comesOut net w.client w.registry t.descriptor h s
  have executes := Worker.getElem?_setStage found .executing
  have starts : Function.update progress i (.start w.registry t.descriptor) i =
    .start w.registry t.descriptor := Function.update_self ..
  obtain ⟨heard, p, works, ended⟩ := runs_comesOut executes rfl comes starts
  rw [Function.update_idem] at works
  have begins := @Step.begins ⟨w, progress⟩ i t _ found (Worker.begin_of_waiting found waits free)
  have last : (Function.update progress i p i).outcome? = some outcome := by
    rwa [Function.update_self]
  have all := (begins.runs.trans works).step (.concludes executes last
    (Worker.conclude_of_executing found (Worker.report_id t.descriptor.id outcome)))
  rw [comes.reportOn]
  exact ⟨_, _, all.step (.settles (Worker.settle_of_reporting found _))⟩

/-- A task that is run is left alone. -/
theorem reaches_runTask {x x' : Worker.Site σ} (ran : x.runTask net i = some x') :
    Reaches x.worker x'.worker := by
  obtain ⟨t, found, waits, free⟩ := Worker.Site.begins_of_runTask ran
  obtain ⟨outcome, tried, h', s', comes⟩ :=
    exists_comesOut net x.worker.client x.worker.registry t.descriptor x.host x.remote
  have alone := reaches_reportOn found waits free net x.host x.remote
  rw [comes.reportOn] at alone
  obtain rfl := Option.some.inj
    ((Worker.Site.runTask_of_comesOut found waits free comes).symm.trans ran)
  exact alone

end Alone

theorem Reaches.refl (w : Worker) : Reaches w w := fun _ => ⟨_, _, .refl _⟩

/-- More turns after some are turns. -/
theorem Reaches.trans {w w' w'' : Worker} (before : Reaches w w') (more : Reaches w' w'') :
    Reaches w w'' := by
  intro progress
  obtain ⟨heard, progress', runs⟩ := before progress
  obtain ⟨heard', progress'', runs'⟩ := more progress'
  exact ⟨_, _, runs.trans runs'⟩

/-- A step that is not of a task is a turn. -/
theorem Reaches.outside {w w' : Worker} {a : Worker.Action} (other : a.isTask = false)
    (went : w.act? a = some w') : Reaches w w' :=
  fun progress => ⟨_, _, (Step.outside (b := ⟨w, progress⟩) other went).runs⟩

/-- **The worker's life** is made of turns. -/
theorem spans_reaches {σ : Type} (net : Network σ) :
    Worker.Spans net fun x x' => Reaches x.worker x'.worker where
  refl x := .refl x.worker
  trans before more := before.trans more
  outside other went := .outside other went
  stream x _ _ := .refl x.worker
  task ran := reaches_runTask ran

/-! ## Jobs among others -/

/-- What a worker has from the start. -/
theorem Step.fixed (goes : Step b heard b') :
    b'.worker.client = b.worker.client ∧ b'.worker.registry = b.worker.registry := by
  cases goes with
  | @outside a w other went =>
    have step := Worker.step_of_act? went
    generalize b.worker.seen a = events at step
    cases step <;> exact ⟨rfl, rfl⟩
  | begins found went =>
    obtain ⟨-, -, -, -, rfl⟩ := Worker.begin_eq_some_iff.1 went
    exact ⟨rfl, rfl⟩
  | ends | registers => exact ⟨rfl, rfl⟩
  | concludes found ended went =>
    obtain ⟨-, -, -, -, rfl⟩ := Worker.conclude_eq_some_iff.1 went
    exact ⟨rfl, rfl⟩
  | settles went =>
    obtain ⟨-, -, -, -, rfl⟩ := Worker.settle_eq_some_iff.1 went
    exact ⟨rfl, rfl⟩

/-- What a worker has from the start it keeps. -/
theorem Runs.fixed (runs : Runs b heard b') :
    b'.worker.client = b.worker.client ∧ b'.worker.registry = b.worker.registry := by
  induction runs with
  | refl => exact ⟨rfl, rfl⟩
  | step before goes ih =>
    obtain ⟨client, registry⟩ := goes.fixed
    exact ⟨client.trans ih.1, registry.trans ih.2⟩

/-- **A report** says how the job comes out by what its task has heard. -/
theorem Tracks.report (h : Tracks heard b) (found : b.worker.tasks[i]? = some t)
    {report : AckRequest} (reports : t.stage.report? = some report) :
    ∃ p outcome, Heard b.worker.registry t.descriptor (heardBy i heard) p ∧
      p.outcome? = some outcome ∧ report = outcome.report t.descriptor.id := by
  have own := h.task i t found
  unfold Consistent at own
  cases stage : t.stage with
  | waiting | executing => simp [stage, TaskStage.report?] at reports
  | reporting report' | done report' =>
    rw [stage] at own
    obtain rfl : report' = report := by simpa [stage, TaskStage.report?] using reports
    exact own

section Created

variable {client : Client} {registry : Registry} {concurrency : ℕ} {w : Worker}
  {progress : ℕ → Progress} (made : Worker.create? client registry concurrency = some w)
  (runs : Runs ⟨w, progress⟩ heard b)

include made runs

/-- A worker has what it was made with. -/
theorem fixed_of_created : b.worker.client = client ∧ b.worker.registry = registry := by
  obtain ⟨-, made⟩ := Option.ite_none_left_eq_some.1 made
  obtain rfl := Option.some.inj made
  exact runs.fixed

/-- **A report of a worker** says how the job comes out by what its task has heard. -/
theorem report_of_created (found : b.worker.tasks[i]? = some t) {report : AckRequest}
    (reports : t.stage.report? = some report) :
    ∃ p outcome, Heard registry t.descriptor (heardBy i heard) p ∧ p.outcome? = some outcome ∧
      report = outcome.report t.descriptor.id := by
  obtain ⟨-, rfl⟩ := fixed_of_created made runs
  exact ((tracks_create? made progress).runs runs).report found reports

end Created

/-- **What is reported on a job is right, whatever becomes of the others.** Take a worker for so
many jobs at once, and any turns of it.

* A job comes out in one of five ways, and that is what is reported on it.  The requests that its
  artifacts make are sent, in their order, up to the first that is refused.  A success is reported
  if and only if the module is known, comes to its end, and every artifact is taken.
* The report of a task says how its job comes out by what this task has heard.
* Two tasks for the same job that hear the same report the same, in whichever workers and however
  the other tasks come out.
* A task that gets its permit and is left alone reports what it would if there were no others.
* What it sends are the requests of its artifacts, in their order, up to the first that is refused,
  and then, once, the request with its report.
* Such a request posts the artifact to its case, or the report to the route for reports.  There is
  one unless the address cannot be read or the key cannot be sent.
* An artifact is taken if its request is answered, and not with an error status.
* The worker's own life, one job after the other, consists of such turns. -/
theorem outcomes_right {client : Client} {registry : Registry} {concurrency : ℕ} {w : Worker}
    {progress : ℕ → Progress} (made : Worker.create? client registry concurrency = some w)
    (runs : Runs ⟨w, progress⟩ heard b) :
    (∀ {σ : Type} (net : Network σ) (d : JobDescriptor) (h : Host) (s : σ),
      (∃ outcome tried h' s', ComesOut net client registry d h s outcome tried h' s' ∧
        reportOn net client registry d h s = (outcome.report d.id, h', s') ∧
        ∀ log, reportOn net.logged client registry d h (s, log) =
          (outcome.report d.id, h', s', log ++ client.evidenceRequests tried)) ∧
      ((reportOn net client registry d h s).1.status = .success ∧
          (reportOn net client registry d h s).1.error = "" ↔
        ∃ m artifacts h' s', registry.find? d.name = some m ∧ m.run d h = (.done artifacts, h') ∧
          client.Registers net artifacts s s')) ∧
    (∀ i t report, b.worker.tasks[i]? = some t → t.stage.report? = some report →
      ∃ p outcome, Heard registry t.descriptor (heardBy i heard) p ∧ p.outcome? = some outcome ∧
        report = outcome.report t.descriptor.id) ∧
    (∀ client' concurrency' w' progress' heard' b',
      Worker.create? client' registry concurrency' = some w' →
      Runs ⟨w', progress'⟩ heard' b' → ∀ i j t t' report report',
      b.worker.tasks[i]? = some t → b'.worker.tasks[j]? = some t' → t.descriptor = t'.descriptor →
      heardBy i heard = heardBy j heard' → t.stage.report? = some report →
      t'.stage.report? = some report' → report = report') ∧
    (∀ {σ : Type} (net : Network σ) (h : Host) (s : σ) (i : ℕ) (t : WorkerTask),
      b.worker.tasks[i]? = some t → t.stage = .waiting → b.worker.held < b.worker.permits →
      ∃ later b', Runs b later b' ∧ b'.worker = b.worker.setStage i t (.done
        (reportOn net client registry t.descriptor h s).1)) ∧
    (∀ {σ : Type} (net : Network σ) (h : Host) (s : σ) (log : List Http.Request) (i : ℕ)
      (t : WorkerTask), b.worker.tasks[i]? = some t → t.stage = .waiting →
      b.worker.held < b.worker.permits → ∃ outcome tried h' s',
        ComesOut net client registry t.descriptor h s outcome tried h' s' ∧
        Worker.Site.runTask net.logged ⟨b.worker, h, s, log⟩ i =
          some ⟨b.worker.setStage i t (.done (outcome.report t.descriptor.id)), h',
            (client.ack net (outcome.report t.descriptor.id) s').2,
            log ++ (client.evidenceRequests tried ++
              (client.ackRequest? (outcome.report t.descriptor.id)).toList)⟩) ∧
    ((∀ e request, client.evidenceRequest? e = some request ↔
        client.Posts ("/api/cases/" ++ e.caseId ++ "/evidences") e request) ∧
      ∀ report request, client.ackRequest? report = some request ↔
        client.Posts "/internal/jobs/ack" report request) ∧
    (∀ {σ : Type} (net : Network σ) (e : Evidence) (s s' : σ),
      client.registerEvidence net e s = (.ok (), s') ↔ ∃ request reply,
        client.Posts ("/api/cases/" ++ e.caseId ++ "/evidences") e request ∧
        net request s = (some reply, s') ∧ (reply.status < 400 ∨ 600 ≤ reply.status)) ∧
    ∀ {σ : Type} (net : Network σ) (now : Timestamp) (connections : ℕ) (x : Worker.Site σ),
      x.worker = w → ∃ heard b, Runs ⟨w, progress⟩ heard b ∧
        b.worker = (Worker.run net now connections x).2.worker := by
  refine ⟨fun net d h s => ⟨?_, reportOn_success_iff⟩,
    fun i t report found reports => report_of_created made runs found reports, ?_, ?_, ?_,
    ⟨fun _ _ => Client.jsonRequest?_eq_some_iff, fun _ _ => Client.jsonRequest?_eq_some_iff⟩,
    fun _ _ _ _ => Client.registerEvidence_eq_ok_iff, ?_⟩
  · obtain ⟨outcome, tried, h', s', comes⟩ := exists_comesOut net client registry d h s
    exact ⟨outcome, tried, h', s', comes, comes.reportOn, fun log => (comes.logged log).reportOn⟩
  · intro client' concurrency' w' progress' heard' b' made' runs' i j t t' report report' found
      found' same alike reports reports'
    obtain ⟨p, outcome, own, ended, rfl⟩ := report_of_created made runs found reports
    obtain ⟨p', outcome', own', ended', rfl⟩ := report_of_created made' runs' found' reports'
    -- the same answers to the same job, so the same progress, so the same outcome
    rw [alike, same] at own
    obtain rfl := own.eq_foldl.trans own'.eq_foldl.symm
    rw [same, Option.some.inj (ended.symm.trans ended')]
  · intro σ net h s i t found waits free
    obtain ⟨later, progress', alone⟩ := reaches_reportOn found waits free net h s b.progress
    obtain ⟨of_client, of_registry⟩ := fixed_of_created made runs
    rw [of_client, of_registry] at alone
    exact ⟨later, _, alone, rfl⟩
  · intro σ net h s log i t found waits free
    have sent := Worker.Site.runTask_logged net found waits free h s log
    obtain ⟨of_client, of_registry⟩ := fixed_of_created made runs
    rwa [of_client, of_registry] at sent
  · rintro σ net now connections x rfl
    obtain ⟨heard, progress', life⟩ := (spans_reaches net).covers.run now connections x progress
    exact ⟨heard, _, life, rfl⟩

/-- An artifact that a module makes. -/
def timeline : Evidence :=
  ⟨"e1", "Q1", "csv", "timeline.csv", "/out/timeline.csv", "", 0, "", .epoch⟩

/-- A registry with two modules that any item suits: one breaks down, one makes an artifact. -/
def twoModules : Registry where
  modules := [
    { name := "Hayabusa", description := "", supports := fun _ => true,
      check := fun h => (.ok (), h), run := fun _ h => (.panicked, h) },
    { name := "Plaso", description := "", supports := fun _ => true,
      check := fun h => (.ok (), h), run := fun _ h => (.done [timeline], h) }]

/-- A job whose module makes an artifact. -/
def timelineJob : JobDescriptor := ⟨"first", "w", "Plaso", none, none⟩

/-- A job whose module breaks down. -/
def panickingJob : JobDescriptor := ⟨"second", "ww", "Hayabusa", none, none⟩

/-- A worker that has both jobs, and a permit for one of them. -/
def bothWaiting : Worker where
  client := ⟨"http://localhost", none⟩
  registry := twoModules
  permits := 1
  phase := .reading
  tasks := [⟨timelineJob, .waiting⟩, ⟨panickingJob, .waiting⟩]

/-- How the first job comes out when nobody answers. -/
def lost : RunOutcome :=
  .error "failed to register artifact timeline.csv: http error: error sending request"

/-- The report on the first job then. -/
def timelineLost : AckRequest := lost.report "first"

/-- When nobody answers, no artifact is registered. -/
theorem registerEvidence_unreachable {σ : Type} (c : Client) (e : Evidence) (s : σ) :
    c.registerEvidence Network.unreachable e s = (.error (.request .unanswered), s) := by
  unfold Client.registerEvidence Client.send
  cases c.evidenceRequest? e <;> rfl

/-- The first job loses its artifact then, which was tried. -/
theorem comesOut_timelineJob {σ : Type} {c : Client} {h h' : Host} {s s' : σ}
    {outcome : RunOutcome} {tried : List Evidence}
    (comes : ComesOut Network.unreachable c twoModules timelineJob h s outcome tried h' s') :
    outcome = lost ∧ tried = [timeline] := by
  cases comes with
  | unknown nobody => cases nobody
  | failed found ran | panicked found ran =>
    cases found
    cases ran
  | fine found ran taken =>
    cases found
    cases ran
    cases taken with
    | cons taken rest => cases (registerEvidence_unreachable c timeline s).symm.trans taken
  | @refused m h' front back e err s₁ s' found ran taken refused =>
    cases found
    have one : front ++ e :: back = [timeline] := by simpa using (congrArg Prod.fst ran).symm
    obtain ⟨rfl, rfl⟩ : front = [] ∧ e = timeline := by
      cases front with
      | nil => exact ⟨rfl, (List.cons.inj one).1⟩
      | cons e' front => simp at one
    have unanswered := (registerEvidence_unreachable c timeline s₁).symm.trans refused
    obtain rfl : .request .unanswered = err := by simpa using congrArg Prod.fst unanswered
    exact ⟨rfl, rfl⟩

/-- One job loses its artifact and the other breaks down, and each has the report of its own.  The
first sends its artifact and its report, and nothing else. -/
theorem outcomes_right_panicking : ∃ w early progress heard b p outcome artifact report,
    Worker.create? ⟨"http://localhost", none⟩ twoModules 1 = some w ∧
    Runs ⟨w, fun _ => .running⟩ early ⟨bothWaiting, progress⟩ ∧
    bothWaiting.client.Posts "/api/cases/Q1/evidences" timeline artifact ∧
    bothWaiting.client.Posts "/internal/jobs/ack" timelineLost report ∧
    (Worker.Site.runTask Network.unreachable.logged
      ⟨bothWaiting, ⟨{}, fun _ _ => .error "", .seeded 0 .epoch, []⟩, (), []⟩ 0).map
        (·.remote.2) = some [artifact, report] ∧
    Runs ⟨w, fun _ => .running⟩ heard b ∧
    b.worker.tasks.map WorkerTask.stage =
      [.done (.failed "first"
        "failed to register artifact timeline.csv: http error: error sending request"),
        .done (.failed "second" "module panicked")] ∧
    Heard twoModules panickingJob (heardBy 1 heard) p ∧ p.outcome? = some outcome ∧
    AckRequest.failed "second" "module panicked" = outcome.report "second" := by
  let worker (phase : WorkerPhase) (tasks : List WorkerTask) : Worker :=
    ⟨⟨"http://localhost", none⟩, twoModules, 1, phase, false, tasks⟩
  let host : Host := ⟨{}, fun _ _ => .error "", .seeded 0 .epoch, []⟩
  have opens : Reaches (worker .idle []) (worker .reading []) := .outside (a := .opened) rfl rfl
  have first : Reaches (worker .reading []) (worker .reading [⟨timelineJob, .waiting⟩]) :=
    .outside (a := .receive timelineJob) rfl rfl
  have second : Reaches (worker .reading [⟨timelineJob, .waiting⟩]) bothWaiting :=
    .outside (a := .receive panickingJob) rfl rfl
  have one_told : Reaches bothWaiting
      (worker .reading [⟨timelineJob, .done timelineLost⟩, ⟨panickingJob, .waiting⟩]) :=
    reaches_reportOn (i := 0) (t := ⟨timelineJob, .waiting⟩) rfl rfl (by decide)
      Network.unreachable host ()
  have both_told : Reaches
      (worker .reading [⟨timelineJob, .done timelineLost⟩, ⟨panickingJob, .waiting⟩])
      (worker .reading [⟨timelineJob, .done timelineLost⟩,
        ⟨panickingJob, .done (.failed "second" "module panicked")⟩]) :=
    reaches_reportOn (i := 1) (t := ⟨panickingJob, .waiting⟩) rfl rfl (by decide)
      Network.unreachable host ()
  have made : Worker.create? ⟨"http://localhost", none⟩ twoModules 1 =
    some (worker .idle []) := rfl
  obtain ⟨early, progress, arrived⟩ := ((opens.trans first).trans second) fun _ => .running
  obtain ⟨later, progress', others⟩ := (one_told.trans both_told) progress
  have runs := arrived.trans others
  have free : bothWaiting.held < bothWaiting.permits := by decide
  obtain ⟨artifact, of_artifact⟩ : ∃ request, bothWaiting.client.evidenceRequest? timeline =
    some request := ⟨_, rfl⟩
  obtain ⟨report, of_report⟩ : ∃ request, bothWaiting.client.ackRequest? timelineLost =
    some request := ⟨_, rfl⟩
  obtain ⟨-, -, -, -, sent, ⟨posts, reports⟩, -⟩ := outcomes_right made arrived
  obtain ⟨_, tried, h', s', comes, ran⟩ :=
    sent Network.unreachable host () [] 0 ⟨timelineJob, .waiting⟩ rfl rfl free
  have both : (Worker.Site.runTask Network.unreachable.logged ⟨bothWaiting, host, (), []⟩
      0).map (·.remote.2) = some [artifact, report] := by
    rw [ran]
    obtain ⟨rfl, rfl⟩ := comesOut_timelineJob comes
    exact congrArg₂ (fun a r => some (Option.toList a ++ Option.toList r)) of_artifact of_report
  obtain ⟨-, reported, -⟩ := outcomes_right made runs
  obtain ⟨p, outcome, own, ended, same⟩ := reported 1 _ _ rfl rfl
  exact ⟨_, _, _, _, _, p, outcome, artifact, report, made, arrived,
    (posts timeline artifact).1 of_artifact, (reports timelineLost report).1 of_report, both, runs,
    rfl, own, ended, same⟩

end Bench
end Casework
