/-
# Streams whose timers cannot be set up

The task of a stream needs two timers.  A timer cannot have an interval of zero, nor a first
deadline that no clock will show.  If one of them cannot be set up the task breaks down before it
has begun, and with it the end that every stream is to come to: the jobs given back, the session
dropped.  The session is `Taskless` then, and stays on record for good.

| between two signs of life | when a worker connects |
| --- | --- |
| no time at all | no task |
| more than the clock has left | no task |
| else | a task, which drops the session when the worker goes away |

Settings are accepted without a look at this: any number of 64 bits is
(`keepAlive_accepted_iff`).  The same holds of a worker and its permits
(`concurrency_accepted_iff`), of which fewer can be handed out than 64 bits can count.
`settings_hold_iff` says which of the accepted settings hold.
-/

import Casework.Proofs.Config.Numbers
import Casework.Proofs.Dispatch.Stranding
import Casework.Worker.Basic

namespace Casework

open Text

/-! ## Setting the timers up -/

/-- The timers of a stream that opens now can be set up, if it looks for jobs at all. -/
def DispatchTiming.Fits (timing : DispatchTiming) (now : ℕ) : Prop :=
  timing.keepAliveInterval ≠ 0 ∧ now + timing.keepAliveInterval < Timer.horizon

/-- A timer can be set up if it has a period and its first tick is in reach. -/
theorem Timer.isSome_start? {interval first : ℕ} :
    (Timer.start? interval first).isSome ↔ interval ≠ 0 ∧ first < Timer.horizon := by
  unfold Timer.start?
  split
  next bad => exact iff_of_false (by simp) fun ⟨interval, early⟩ => by omega
  next fine => exact iff_of_true rfl (by omega)

/-- **The task of a stream** begins if its timers can be set up. -/
theorem Connection.isSome_start? {timing : DispatchTiming} (polls : timing.pollInterval ≠ 0)
    (now : ℕ) (token : WorkerToken) (modules : List String) :
    (Connection.start? timing now token modules).isSome ↔ timing.Fits now := by
  have both : (Connection.start? timing now token modules).isSome ↔
      (Timer.start? timing.pollInterval now).isSome ∧
        (Timer.start? timing.keepAliveInterval (now + timing.keepAliveInterval)).isSome := by
    unfold Connection.start?
    cases Timer.start? timing.pollInterval now with
    | none => simp
    | some poll =>
      cases Timer.start? timing.keepAliveInterval (now + timing.keepAliveInterval) <;> simp
  rw [both, Timer.isSome_start?, Timer.isSome_start?, DispatchTiming.Fits]
  omega

namespace Dispatch

/-- The worker's session is on record, and no task will ever drop it. -/
def Taskless (s : Server) (worker : WorkerToken) : Prop :=
  OnRecord s worker ∧ ∀ c ∈ s.dispatcher.connections, c.token ≠ worker

variable {s s' : Server} {a : Action} {events : List StreamEvent} {worker : WorkerToken}
  {start : Server} {actions : List Action}

/-! ## The end of streams -/

/-- A worker without a task has none among the tasks. -/
theorem connection?_eq_none_iff :
    s.connection? worker = none ↔ ∀ c ∈ s.dispatcher.connections, c.token ≠ worker := by
  simp [Server.connection?]

/-- **A worker goes away:** its session does if it has a task. -/
theorem onRecord_disconnect (s : Server) (worker : WorkerToken) :
    OnRecord (s.disconnect worker) worker ↔ Taskless s worker := by
  unfold Server.disconnect
  cases found : s.connection? worker with
  | none => exact (and_iff_left (connection?_eq_none_iff.1 found)).symm
  | some c =>
    obtain ⟨hc, own⟩ := mem_of_connection? found
    refine iff_of_false (fun on => ((onRecord_close s worker worker).1 on).2 rfl) ?_
    exact fun taskless => taskless.2 c hc own

/-- Streams that end take their sessions along. -/
theorem onRecord_closes (connections : List Connection) (s : Server) (events : List StreamEvent) :
    OnRecord (connections.foldl (fun (events, s) c =>
      (events ++ [.closed c.token], s.close c.token)) (events, s)).2 worker ↔
        OnRecord s worker ∧ ∀ c ∈ connections, c.token ≠ worker := by
  induction connections generalizing s events with
  | nil => simp
  | cons c connections ih =>
    rw [List.foldl_cons, ih, onRecord_close, List.forall_mem_cons, and_assoc, ne_comm]

/-- **The server shuts down:** the sessions that have tasks are dropped. -/
theorem onRecord_shutdown (s : Server) (worker : WorkerToken) :
    OnRecord s.shutdown.2 worker ↔ Taskless s worker := onRecord_closes _ _ _

/-! ## The streams that there are -/

/-- Sessions and tasks are the same, the phases of the tasks apart. -/
structure SameStreams (s s' : Server) : Prop where
  sessions : s'.dispatcher.sessions = s.dispatcher.sessions
  tokens : s'.dispatcher.connections.map Connection.token =
    s.dispatcher.connections.map Connection.token

/-- A task that turns opens and ends no stream. -/
theorem sameStreams_turn (s : Server) (worker : WorkerToken) (phase : ConnectionPhase) :
    SameStreams s (s.turn worker phase) := ⟨rfl, (turned_turn s worker phase).tokens⟩

/-- A task that waits for an answer opens and ends no stream. -/
theorem sameStreams_await {α : Type} (s : Server) (worker : WorkerToken) (op : StoreM α)
    (next : Except Error α → ConnectionPhase) : SameStreams s (s.await worker op next).2 :=
  ⟨rfl, (turned_turn (s.onStore op).2 worker _).tokens⟩

/-- What is done only in one phase opens and ends no stream if it does not there. -/
theorem sameStreams_whenIn {phase : ConnectionPhase}
    {go : Connection → List StreamEvent × Server} (h : ∀ c, SameStreams s (go c).2) :
    SameStreams s (whenIn phase worker s go).2 := by
  obtain idle | ⟨c, -, -, -, goes⟩ := whenIn_cases phase worker s go
  · rw [idle]
    exact ⟨rfl, rfl⟩
  · rw [goes]
    exact h c

/-- A task that goes on opens and ends no stream. -/
theorem sameStreams_proceed (s : Server) (worker : WorkerToken) (written : Bool) :
    SameStreams s (s.proceed worker written).2 := by
  unfold Server.proceed
  split
  · exact sameStreams_await ..
  · exact sameStreams_await ..
  · exact sameStreams_await ..
  · unfold Server.write
    split
    · exact sameStreams_turn ..
    · exact sameStreams_turn ..
  · exact ⟨rfl, rfl⟩

/-- What an action does to sessions and tasks: a stream opens, or one ends, or all are the same. -/
inductive Streams (s : Server) : Action → Server → Prop where
  | opened {now : ℕ} {params : ConnectParams} {remote : String} {modules : List String}
      (declared : Server.declaredModules params = .ok modules) :
      Streams s (.connect now params remote) (s.enroll now modules params.workers remote).2
  | dropped {c : Connection} (found : c ∈ s.dispatcher.connections) :
      Streams s (.forget c.token) (s.forget c.token)
  | same {a : Action} {s' : Server} (same : SameStreams s s')
      (refused : ∀ now params remote modules, a = .connect now params remote →
        Server.declaredModules params ≠ .ok modules) : Streams s a s'

/-- **Every action does one of these.** -/
theorem act_streams (s : Server) (a : Action) : Streams s a (act s a).2 := by
  cases a with
  | connect now params remote =>
    rw [act]
    cases declared : Server.declaredModules params with
    | ok modules => exact .opened declared
    | error e =>
      refine .same ⟨rfl, rfl⟩ fun now' params' remote' modules same => ?_
      obtain ⟨rfl, rfl, rfl⟩ := Action.connect.inj same
      simp [declared]
  | forget worker =>
    rw [act]
    obtain idle | ⟨c, found, rfl, -, goes⟩ := whenIn_cases .released worker s fun _ =>
      ([], s.forget worker)
    · rw [idle]
      exact .same ⟨rfl, rfl⟩ (by simp)
    · rw [goes]
      exact .dropped found
  | poll now worker =>
    refine .same (sameStreams_whenIn fun c => ?_) (by simp)
    let advanced (c : Connection) : Connection := { c with poll := c.poll.advance now }
    exact ⟨rfl, (turned_timers (g := advanced) (fun _ => ⟨rfl, rfl⟩) s c.token _).tokens⟩
  | keepAlive now worker =>
    refine .same (sameStreams_whenIn fun c => ?_) (by simp)
    let advanced (c : Connection) : Connection := { c with keepAlive := c.keepAlive.advance now }
    exact ⟨rfl, (turned_timers (g := advanced) (fun _ => ⟨rfl, rfl⟩) s c.token _).tokens⟩
  | proceed worker written => exact .same (sameStreams_proceed s worker written) (by simp)
  | leave worker => exact .same (sameStreams_whenIn fun c => sameStreams_turn ..) (by simp)
  | release worker =>
    refine .same (sameStreams_whenIn fun c => ⟨rfl, ?_⟩) (by simp)
    exact (turned_turn (s.onStore (Dispatcher.reclaimWorkerJobs worker)).2 worker _).tokens
  | shutdown => exact .same ⟨rfl, rfl⟩ (by simp)
  | request statement => exact .same ⟨rfl, rfl⟩ (by simp)
  | reach table lost => exact .same ⟨rfl, rfl⟩ (by simp)

/-! ## Runs -/

/-- A server keeps its timing. -/
theorem Effect.timing (h : Effect s a events s') : s'.dispatcher.timing = s.dispatcher.timing := by
  cases h <;> rfl

/-- Names are handed out once, and those of all sessions have been. -/
structure Enrolled (s : Server) : Prop where
  sound : Sound s
  drawn : ∀ e ∈ s.dispatcher.sessions.entries, s.store.supply.Drawn e.workerToken

/-- **Names are handed out once** over every action. -/
theorem Enrolled.act (h : Enrolled s) (a : Action) : Enrolled (act s a).2 := by
  have e := act_effect h.sound.keyed a
  obtain ⟨-, -, -, used⟩ := e.changed
  refine ⟨h.sound.effect e, fun session member => ?_⟩
  obtain old | drawn := e.session_drawn member
  · exact used.drawn (h.drawn session old)
  · exact drawn

/-- A stream that ends leaves no session without a task. -/
theorem taskless_forget {c : Connection} (found : c ∈ s.dispatcher.connections) :
    Taskless (s.forget c.token) worker ↔ Taskless s worker := by
  by_cases own : worker = c.token
  · refine iff_of_false (fun after => ?_) fun before => before.2 c found own.symm
    exact ((onRecord_forget s c.token worker).1 after.1).2 own
  · have noTask : (∀ c' ∈ (s.forget c.token).dispatcher.connections, c'.token ≠ worker) ↔
        ∀ c' ∈ s.dispatcher.connections, c'.token ≠ worker := by
      refine ⟨fun none c' hc' => ?_, fun none c' hc' => none c' (List.mem_of_mem_filter hc')⟩
      by_cases gone : c'.token = c.token
      · exact gone ▸ Ne.symm own
      · exact none c' (List.mem_filter.2 ⟨hc', by simpa using gone⟩)
    rw [Taskless, Taskless, onRecord_forget, noTask, and_iff_left own]

section Opening

variable (now : ℕ) (modules : List String) (workers : UInt64) (remote : String)

/-- Who is enrolled is on record, and the others are as before. -/
theorem onRecord_enroll (s : Server) (worker : WorkerToken) :
    OnRecord (s.enroll now modules workers remote).2 worker ↔
      OnRecord s worker ∨ worker = s.store.supply.next.1 := by
  constructor
  · rintro ⟨e, he, rfl⟩
    obtain ⟨old, -⟩ | rfl := Sessions.mem_insert.1 he
    · exact .inl ⟨e, old, rfl⟩
    · exact .inr rfl
  · by_cases new : worker = s.store.supply.next.1
    · exact fun _ => ⟨_, Sessions.mem_insert.2 (.inr rfl), new.symm⟩
    · rintro (⟨e, he, rfl⟩ | same)
      · exact ⟨e, Sessions.mem_insert.2 (.inl ⟨he, new⟩), rfl⟩
      · exact absurd same new

/-- Who is enrolled has a task unless the timers cannot be set up. -/
theorem noTask_enroll (s : Server) (worker : WorkerToken) :
    (∀ c ∈ (s.enroll now modules workers remote).2.dispatcher.connections, c.token ≠ worker) ↔
      (∀ c ∈ s.dispatcher.connections, c.token ≠ worker) ∧ (worker = s.store.supply.next.1 →
        Connection.start? s.dispatcher.timing now s.store.supply.next.1 modules = none) := by
  change (∀ c ∈ s.dispatcher.connections ++ (Connection.start? s.dispatcher.timing now
    s.store.supply.next.1 modules).toList, c.token ≠ worker) ↔ _
  rw [List.forall_mem_append]
  refine and_congr_right fun _ => ?_
  cases begun : Connection.start? s.dispatcher.timing now s.store.supply.next.1 modules with
  | none => simp
  | some c => simp [(of_start? begun).1, eq_comm]

/-- A stream that opens has a session without a task if the task cannot begin. -/
theorem taskless_enroll (h : Enrolled s) (worker : WorkerToken) :
    Taskless (s.enroll now modules workers remote).2 worker ↔ Taskless s worker ∨
      worker = s.store.supply.next.1 ∧
        Connection.start? s.dispatcher.timing now s.store.supply.next.1 modules = none := by
  have absent (on : OnRecord s worker) : worker ≠ s.store.supply.next.1 := by
    obtain ⟨e, he, rfl⟩ := on
    exact fun new => h.sound.fresh.not_drawn_next (new ▸ h.drawn e he)
  have others (new : worker = s.store.supply.next.1) :
      ∀ c ∈ s.dispatcher.connections, c.token ≠ worker := fun c hc own =>
    h.sound.fresh.not_drawn_next (new ▸ own ▸ h.sound.drawn c hc)
  rw [Taskless, Taskless, onRecord_enroll, noTask_enroll]
  by_cases new : worker = s.store.supply.next.1
  · have off : ¬OnRecord s worker := fun on => absent on new
    simp only [new, or_true, true_and, forall_const] at off others ⊢
    simp only [off, false_and, false_or, and_iff_right others]
  · simp only [new, or_false, false_and, false_imp_iff, and_true]

end Opening

/-- A worker connects, and its modules are accepted, when the timers cannot be set up. -/
def OpensUnfit (s : Server) (a : Action) (worker : WorkerToken) : Prop :=
  worker = s.store.supply.next.1 ∧ ∃ now params remote modules,
    a = .connect now params remote ∧ Server.declaredModules params = .ok modules ∧
      ¬s.dispatcher.timing.Fits now

/-- **A session is without a task** from the opening of its stream on, or never. -/
theorem taskless_act (h : Enrolled s) (polls : s.dispatcher.timing.pollInterval ≠ 0) (a : Action)
    (worker : WorkerToken) :
    Taskless (act s a).2 worker ↔ Taskless s worker ∨ OpensUnfit s a worker := by
  have streams := act_streams s a
  generalize (act s a).2 = s' at streams
  cases streams with
  | same same refused =>
    have unfit : ¬OpensUnfit s a worker := by
      rintro ⟨-, now, params, remote, modules, rfl, declared, -⟩
      exact refused now params remote modules rfl declared
    have noTask : (∀ c ∈ s'.dispatcher.connections, c.token ≠ worker) ↔
        ∀ c ∈ s.dispatcher.connections, c.token ≠ worker := by
      have tokens := congrArg (worker ∈ ·) same.tokens
      simpa [not_or] using not_congr (Eq.to_iff tokens)
    rw [or_iff_left unfit, Taskless, Taskless, OnRecord, OnRecord, same.sessions, noTask]
  | @dropped c found =>
    have unfit : ¬OpensUnfit s (.forget c.token) worker := by
      rintro ⟨-, now, params, remote, modules, same, -⟩
      cases same
    rw [or_iff_left unfit, taskless_forget found]
  | @opened now params remote modules declared =>
    rw [taskless_enroll now modules params.workers remote h, ← Option.not_isSome_iff_eq_none,
      Connection.isSome_start? polls]
    refine or_congr_right (and_congr_right fun _ => ?_)
    constructor
    · exact fun bad => ⟨now, params, remote, modules, rfl, declared, bad⟩
    · rintro ⟨now', params', remote', modules', same, -, bad⟩
      obtain ⟨rfl, rfl, rfl⟩ := Action.connect.inj same
      exact bad

/-- In a run a worker connects, and its modules are accepted, when the timers cannot be set up. -/
def OpenedUnfit (start : Server) (actions : List Action) (worker : WorkerToken) : Prop :=
  ∃ early a late, actions = early ++ a :: late ∧ OpensUnfit (run early start) a worker

/-- A stream was opened without timers before the last action or by it. -/
theorem openedUnfit_concat (start : Server) (actions : List Action) (a : Action)
    (worker : WorkerToken) : OpenedUnfit start (actions ++ [a]) worker ↔
      OpenedUnfit start actions worker ∨ OpensUnfit (run actions start) a worker := by
  constructor
  · rintro ⟨early, b, late, split, unfit⟩
    rcases late.eq_nil_or_concat with rfl | ⟨late, last, rfl⟩
    · obtain ⟨rfl, same⟩ := List.append_inj' split rfl
      obtain rfl := List.singleton_inj.1 same
      exact .inr unfit
    · have same : actions ++ [a] = (early ++ b :: late) ++ [last] := by simpa using split
      obtain ⟨rfl, -⟩ := List.append_inj' same rfl
      exact .inl ⟨early, b, late, rfl, unfit⟩
  · rintro (⟨early, b, late, rfl, unfit⟩ | unfit)
    · exact ⟨early, b, late ++ [a], by simp, unfit⟩
    · exact ⟨actions, a, [], rfl, unfit⟩

/-- **In any run** the sessions without a task are those whose streams opened so. -/
theorem taskless_run (h : Enrolled start) (none : ∀ worker, ¬OnRecord start worker)
    (polls : start.dispatcher.timing.pollInterval ≠ 0) (actions : List Action)
    (worker : WorkerToken) :
    Taskless (run actions start) worker ↔ OpenedUnfit start actions worker := by
  have kept (actions : List Action) : Enrolled (run actions start) ∧
      (run actions start).dispatcher.timing = start.dispatcher.timing :=
    run_induction (P := fun s => Enrolled s ∧ s.dispatcher.timing = start.dispatcher.timing)
      (Q := fun _ => True)
      (fun s a _ h => ⟨h.1.act a, (act_effect h.1.sound.keyed a).timing.trans h.2⟩)
      (fun _ _ => trivial) ⟨h, rfl⟩
  induction actions using List.reverseRecOn with
  | nil =>
    refine iff_of_false (fun taskless => none worker taskless.1) ?_
    rintro ⟨early, a, late, split, -⟩
    simp at split
  | append_singleton actions a ih =>
    obtain ⟨enrolled, timing⟩ := kept actions
    rw [run_concat, openedUnfit_concat, taskless_act enrolled (by rwa [timing])]
    exact or_congr_left ih

/-! ## The main statement -/

section Start

variable {store : Store} (registry : Registry) (rules : RuleEngine) (timing : DispatchTiming)

/-- A server that has just been started has no sessions. -/
theorem enrolled_boot (fresh : store.supply.Fresh) (keyed : Keyed store.jobs.rows)
    (there : store.jobs.lost = false) : Enrolled (boot store registry rules timing) := by
  obtain ⟨now, changed⟩ := boot_changed registry rules timing there
  have used := (Supply.used_next store.supply).trans changed.supply
  exact ⟨⟨used.fresh fresh, changed.keyed keyed, List.nodup_nil,
    fun c hc => absurd hc List.not_mem_nil⟩, fun e he => absurd he List.not_mem_nil⟩

/-- When a server starts, nobody is on record. -/
theorem not_onRecord_boot (worker : WorkerToken) :
    ¬OnRecord (boot store registry rules timing) worker :=
  fun ⟨_, he, _⟩ => absurd he List.not_mem_nil

end Start

/-- **Which accepted settings hold.**  The settings of a server are taken from an environment that
is accepted, and the time between two looks for a job is not zero; the server is started on a store
whose job table has its key, and names are handed out once.

* The time between two signs of life is a number of seconds of 64 bits, and the timers of a stream
  can be set up if and only if it is not zero and the next sign of life comes before the clock ends.
* Whatever is done at the server, in any order, a session has no task if and only if its worker
  connected when the timers could not be set up; and these are the sessions that stay on record
  when their workers go away, and when the server shuts down.
* The settings of a worker, if accepted, allow for any number of jobs at once of 64 bits but zero,
  and the worker is put together if and only if there are so many permits. -/
theorem settings_hold_iff {env : Environment} {config : ServerConfig}
    (accepted : ServerConfig.ofEnvironment env = .ok config) (polls : config.pollInterval ≠ 0)
    {store : Store} (registry : Registry) (rules : RuleEngine) (fresh : store.supply.Fresh)
    (keyed : Keyed store.jobs.rows) (there : store.jobs.lost = false) :
    let timing : DispatchTiming := ⟨config.pollInterval, config.keepAliveInterval⟩
    let start := boot store registry rules timing
    (∃ seconds ≤ maxU64, config.keepAliveInterval = seconds * 1000 ∧ ∀ now token modules,
      (Connection.start? timing now token modules).isSome ↔
        seconds ≠ 0 ∧ now + seconds * 1000 < Timer.horizon) ∧
    (∀ actions worker,
      (Taskless (run actions start) worker ↔ OpenedUnfit start actions worker) ∧
      (OnRecord ((run actions start).disconnect worker) worker ↔
        OpenedUnfit start actions worker) ∧
      (OnRecord (run actions start).shutdown.2 worker ↔ OpenedUnfit start actions worker)) ∧
    ∀ env config, WorkerConfig.ofEnvironment env = .ok config →
      0 < config.concurrency ∧ config.concurrency ≤ maxU64 ∧ ∀ client modules,
        (Worker.create? client modules config.concurrency).isSome ↔
          config.concurrency ≤ Worker.maxPermits := by
  intro timing start
  refine ⟨?_, fun actions worker => ?_, fun env config accepted => ?_⟩
  · obtain ⟨seconds, fits, interval⟩ := keepAliveInterval_of_accepted accepted
    refine ⟨seconds, fits, interval, fun now token modules => ?_⟩
    rw [Connection.isSome_start? polls]
    dsimp only [DispatchTiming.Fits, timing]
    rw [interval]
    simp
  · have taskless := taskless_run (enrolled_boot registry rules timing fresh keyed there)
      (not_onRecord_boot registry rules timing) polls actions worker
    exact ⟨taskless, (onRecord_disconnect _ worker).trans taskless,
      (onRecord_shutdown _ worker).trans taskless⟩
  · obtain ⟨pos, fits⟩ := concurrency_of_accepted accepted
    refine ⟨pos, fits, fun client modules => ?_⟩
    rw [Worker.create?]
    split
    next more => exact iff_of_false (by simp) (by omega)
    next enough => exact iff_of_true rfl (by omega)

/-- A worker connects. -/
def loneVisit : List Action := [.connect 0 ⟨"Hayabusa", 1⟩ "localhost"]

/-- Settings without any time between two signs of life meet what `settings_hold_iff` asks for: no
stream has a task then, and the worker that connects to the lone store stays on record. -/
theorem settings_hold_iff_zero : ∃ config,
    ServerConfig.ofEnvironment (pulse 0) = .ok config ∧ config.pollInterval ≠ 0 ∧
      lone.supply.Fresh ∧ Keyed lone.jobs.rows ∧ lone.jobs.lost = false ∧
      let timing : DispatchTiming := ⟨config.pollInterval, config.keepAliveInterval⟩
      (∀ now token modules, Connection.start? timing now token modules = none) ∧
        OnRecord ((run loneVisit (boot lone {} namePatternRules timing)).disconnect "ww") "ww" := by
  obtain ⟨config, accepted, poll, pulse⟩ := pulse_accepted (Nat.zero_le maxU64)
  have polls : config.pollInterval ≠ 0 := by simp [poll]
  refine ⟨config, accepted, polls, fresh_lone, keyed_lone, rfl, ?_⟩
  intro timing
  obtain ⟨⟨seconds, -, interval, begins⟩, streams, -⟩ :=
    settings_hold_iff accepted polls {} namePatternRules fresh_lone keyed_lone rfl
  obtain rfl : seconds = 0 := by omega
  refine ⟨fun now token modules => ?_, (streams loneVisit "ww").2.1.2 ?_⟩
  · rw [← Option.not_isSome_iff_eq_none, begins now token modules]
    exact fun fits => fits.1 rfl
  · refine ⟨[], _, [], rfl, rfl, 0, _, _, ["Hayabusa"], rfl, rfl, fun fits => fits.1 ?_⟩
    exact interval.trans (Nat.zero_mul 1000)

/-- **Settings are accepted that do not hold.**  A server with no time between two signs of life
keeps the session of a worker that has gone away, and a worker that is to run one job more at once
than there are permits cannot be put together. -/
theorem accepted_settings_fail :
    (∃ config, ServerConfig.ofEnvironment (pulse 0) = .ok config ∧ config.pollInterval ≠ 0 ∧
      OnRecord ((run loneVisit (boot lone {} namePatternRules
        ⟨config.pollInterval, config.keepAliveInterval⟩)).disconnect "ww") "ww") ∧
    ∃ config, WorkerConfig.ofEnvironment (crew (Worker.maxPermits + 1)) = .ok config ∧
      ∀ client modules, Worker.create? client modules config.concurrency = none := by
  obtain ⟨server, serves, poll, pulse⟩ := pulse_accepted (Nat.zero_le maxU64)
  obtain ⟨worker, works, concurrency⟩ :=
    crew_accepted (Nat.succ_pos Worker.maxPermits) (by decide)
  refine ⟨⟨server, serves, by simp [poll], ?_⟩, worker, works, fun client modules => ?_⟩
  · rw [poll, pulse, OnRecord]
    decide +kernel
  · rw [Worker.create?, concurrency, if_pos (Nat.lt_succ_self _)]

end Dispatch
end Casework
