/-
# What an action comes to

`Effect` lists what an action can do to a server, and forgets how that was computed: something
aside from the jobs, a request's statement, a new task, a task's progress, jobs given back, a
session dropped.  Every action has such an effect (`act_effect`), and what holds of all servers at
all times is read off the effects, one after the other:

* names are handed out once, tasks have names of their own, and the job table has its key
  (`Sound`),
* a job never disappears (`Effect.sameJob`),
* a row that runs did so before, or a serving task has claimed it (`Effect.running`),
* a job that was given out stays with its worker until that worker gives it back
  (`Effect.holds`).
-/

import Casework.Proofs.Dispatch.Steps

namespace Casework

namespace Sessions

variable {s : Sessions} {e e' : WorkerSession} {token : WorkerToken}

/-- The sessions that are left are the others. -/
theorem mem_without : e ∈ (s.without token).entries ↔ e ∈ s.entries ∧ e.workerToken ≠ token := by
  simp [without]

/-- A session takes the place of one with its token. -/
theorem mem_insert : e ∈ (s.insert e').entries ↔
    (e ∈ s.entries ∧ e.workerToken ≠ e'.workerToken) ∨ e = e' := by
  simp [insert, mem_without]

end Sessions

namespace Dispatch

/-! ## What an action comes to -/

/-- What a task comes to by one statement, or one line: the change of the job table, what the
worker sees, and where the task stands then. -/
inductive Progress (rows : List JobRow) (c : Connection) :
    ConnectionPhase → JobChange → List StreamEvent → ConnectionPhase → Prop where
  | goesOn {p p' : ConnectionPhase} (serves : p.serves = true) (still : p'.serves = true)
      (hand : p'.inHand? = p.inHand?) : Progress rows c p .idle [] p'
  | stops {p : ConnectionPhase} {events : List StreamEvent} (serves : p.serves = true)
      (silent : events = [] ∨ events = [.closed c.token]) : Progress rows c p .idle events .leaving
  | claims {r : JobRow} {server : InstanceToken} {now : Timestamp} {job : Job} (mem : r ∈ rows)
      (waits : r.isClaimable c.modules = true)
      (read : (r.claimed c.token server now).job? = some job) :
      Progress rows c .serving (.claim r.id c.token server now) [] (.describing job none)
  | chokes {r : JobRow} {server : InstanceToken} {now : Timestamp} (mem : r ∈ rows)
      (waits : r.isClaimable c.modules = true) :
      Progress rows c .serving (.claim r.id c.token server now) [.closed c.token] .leaving
  | fails {id : JobId} {missing error : String} {now : Timestamp} :
      Progress rows c (.failing id missing) (.finish id .failed error now) [] .serving
  | writes {d : JobDescriptor} : Progress rows c (.writing d) .idle [.line c.token d] .serving

/-- A request queues a job, finishes one, or leaves the job table alone. -/
inductive ByRequest : JobChange → Prop where
  | idle : ByRequest .idle
  | queue (row : JobRow) : ByRequest (.queue row)
  | finish (id : JobId) (status : JobStatus) (error : String) (now : Timestamp) :
      ByRequest (.finish id status error now)

/-- The connections after the task of a worker went over to a phase. -/
structure Turned (worker : WorkerToken) (phase : ConnectionPhase) (cs cs' : List Connection) :
    Prop where
  tokens : cs'.map Connection.token = cs.map Connection.token
  kept : ∀ c' ∈ cs', ∃ c ∈ cs, c'.token = c.token ∧ c'.modules = c.modules ∧
    if c.token = worker then c'.phase = phase else c' = c

/-- What an action comes to. -/
inductive Effect (s : Server) : Action → List StreamEvent → Server → Prop where
  | aside (a : Action) {store : Store} (stopping : Bool) (aside : s.store.Aside store) :
      Effect s a [] ⟨store, { s.dispatcher with stopping := stopping }⟩
  | requested (a : Action) {ch : JobChange} {store : Store} (changed : s.store.Changed ch store)
      (kind : ByRequest ch) : Effect s a [] ⟨store, s.dispatcher⟩
  | reached (lost : Bool) : Effect s (.reach .jobs lost) [] ⟨s.store.reach .jobs lost, s.dispatcher⟩
  | enrolled (a : Action) {session : WorkerSession} {task? : Option Connection} {supply : Supply}
      (drawn : session.workerToken = s.store.supply.next.1)
      (used : s.store.supply.next.2.Used supply)
      (task : ∀ c ∈ task?, c.token = session.workerToken ∧ c.modules = session.supportedModules ∧
        c.phase = .serving) :
      Effect s a [] ⟨{ s.store with supply := supply }, { s.dispatcher with
        sessions := s.dispatcher.sessions.insert session
        connections := s.dispatcher.connections ++ task?.toList }⟩
  | advanced (a : Action) {c : Connection} {ch : JobChange} {events : List StreamEvent}
      {phase : ConnectionPhase} {store : Store} {connections : List Connection}
      (found : c ∈ s.dispatcher.connections)
      (progress : Progress s.store.jobs.rows c c.phase ch events phase)
      (changed : s.store.Changed ch store)
      (turned : Turned c.token phase s.dispatcher.connections connections) :
      Effect s a events ⟨store, { s.dispatcher with connections := connections }⟩
  | gaveBack {c : Connection} {ch : JobChange} {store : Store} {connections : List Connection}
      (found : c ∈ s.dispatcher.connections) (stopped : c.phase = .leaving)
      (given : s.store.jobs.lost = true ∧ ch = .idle ∨
        s.store.jobs.lost = false ∧ ∃ now, ch = .release c.token now)
      (changed : s.store.Changed ch store)
      (turned : Turned c.token .released s.dispatcher.connections connections) :
      Effect s (.release c.token) [] ⟨store, { s.dispatcher with connections := connections }⟩
  | forgot {c : Connection} (found : c ∈ s.dispatcher.connections) (done : c.phase = .released) :
      Effect s (.forget c.token) [] (s.forget c.token)

/-- A task that is found for a worker is there and has its token. -/
theorem mem_of_connection? {s : Server} {worker : WorkerToken} {c : Connection}
    (h : s.connection? worker = some c) : c ∈ s.dispatcher.connections ∧ c.token = worker :=
  ⟨List.mem_of_find?_eq_some h, by simpa using List.find?_some h⟩

/-- A change of the connections of one worker that keeps tokens and modules is a turn of it. -/
theorem turned_changeAll {worker : WorkerToken} {phase : ConnectionPhase}
    {f : Connection → Connection}
    (hf : ∀ c, (f c).token = c.token ∧ (f c).modules = c.modules ∧ (f c).phase = phase)
    (cs : List Connection) :
    Turned worker phase cs (changeAll (fun c => c.token == worker) f cs) := by
  have token (c : Connection) : (if c.token == worker then f c else c).token = c.token := by
    split
    · exact (hf c).1
    · rfl
  refine ⟨?_, fun c' hc' => ?_⟩
  · rw [changeAll, List.map_map]
    exact List.map_congr_left fun c _ => token c
  · obtain ⟨c, hc, rfl⟩ := List.mem_map.1 hc'
    refine ⟨c, hc, token c, ?_⟩
    by_cases h : c.token = worker
    · simpa [h] using (hf c).2
    · simp [h]

/-- To turn a worker is a turn of it. -/
theorem turned_turn (s : Server) (worker : WorkerToken) (phase : ConnectionPhase) :
    Turned worker phase s.dispatcher.connections (s.turn worker phase).dispatcher.connections := by
  refine turned_changeAll (fun c => ?_) _
  exact ⟨rfl, rfl, rfl⟩

/-- Two changes of the same rows are one. -/
theorem changeAll_changeAll {α : Type} {p : α → Bool} {f g : α → α} (keep : ∀ a, p (g a) = p a)
    (rows : List α) : changeAll p f (changeAll p g rows) = changeAll p (f ∘ g) rows := by
  rw [changeAll, changeAll, changeAll, List.map_map]
  refine List.map_congr_left fun a _ => ?_
  by_cases h : p a = true <;> simp [h, keep]

/-- A connection that is changed twice is changed once by both. -/
theorem updateConnection_updateConnection {f g : Connection → Connection}
    (keep : ∀ c, (g c).token = c.token) (s : Server) (worker : WorkerToken) :
    (s.updateConnection worker g).updateConnection worker f =
      s.updateConnection worker (f ∘ g) := by
  unfold Server.updateConnection
  dsimp only
  rw [changeAll_changeAll fun c => by rw [keep]]

/-- What the worker sees of a task that waited for an answer of the store. -/
def seen (worker : WorkerToken) (phase : ConnectionPhase) : List StreamEvent :=
  if phase = .leaving then [.closed worker] else []

/-- While a task serves, the end of its stream is not seen. -/
theorem seen_of_serves {worker : WorkerToken} {phase : ConnectionPhase}
    (h : phase.serves = true) : seen worker phase = [] := by
  have : phase ≠ .leaving := fun e => by simp [e, ConnectionPhase.serves] at h
  exact if_neg this

variable {s : Server} {c : Connection} {α : Type}

/-- A task that waits for an answer goes on as the answer says. -/
theorem await_eq {op : StoreM α} {answer : Except Error α} {store : Store}
    (run : op s.store = (answer, store)) (worker : WorkerToken)
    (next : Except Error α → ConnectionPhase) :
    s.await worker op next = (seen worker (next answer),
      (⟨store, s.dispatcher⟩ : Server).turn worker (next answer)) := by
  simp [Server.await, Server.onStore, run, seen]

/-- A task that waits for an answer and goes on makes progress. -/
theorem await_effect (a : Action) {op : StoreM α} {answer : Except Error α} {store : Store}
    {next : Except Error α → ConnectionPhase} {ch : JobChange}
    (found : c ∈ s.dispatcher.connections) (run : op s.store = (answer, store))
    (changed : s.store.Changed ch store)
    (progress : Progress s.store.jobs.rows c c.phase ch (seen c.token (next answer))
      (next answer)) :
    Effect s a (s.await c.token op next).1 (s.await c.token op next).2 := by
  rw [await_eq run]
  exact .advanced a found progress changed (turned_turn _ _ _)

/-- What a task makes of a record that it looked up. -/
theorem progress_afterLookUp {rows : List JobRow} {job : Job} {case? : Option Case}
    {found : α → ConnectionPhase} (answer : Except Error α)
    (hand : ∀ a, (found a).serves = true ∧ (found a).inHand? = some job.id) :
    Progress rows c (.describing job case?) .idle
      (seen c.token (Server.afterLookUp job.id found answer))
      (Server.afterLookUp job.id found answer) := by
  have stop : Progress rows c (.describing job case?) .idle [.closed c.token] .leaving :=
    .stops rfl (.inr rfl)
  cases answer with
  | ok a =>
    obtain ⟨serves, same⟩ := hand a
    rw [Server.afterLookUp, seen_of_serves serves]
    exact .goesOn rfl serves same
  | error e =>
    cases e with
    | notFound missing => exact .goesOn rfl rfl rfl
    | _ => exact stop

/-! ## Every action has such an effect -/

/-- What changes no store gives back the one it was given. -/
theorem run_eq_of_unchanged {op : StoreM α} {s : Store} (h : (op s).2 = s) :
    op s = ((op s).1, s) :=
  Prod.ext rfl h

/-- Any action may come to nothing. -/
theorem idle_effect (a : Action) : Effect s a [] s :=
  .aside a s.dispatcher.stopping (.refl s.store)

theorem changed_refl (s : Store) : s.Changed .idle s := Store.changed_idle (.refl _)

/-- **A task that goes on** comes to one of the effects, whether its line could be written or
not. -/
theorem proceed_effect (worker : WorkerToken) (written : Bool) :
    Effect s (.proceed worker written) (s.proceed worker written).1
      (s.proceed worker written).2 := by
  unfold Server.proceed
  cases found : s.connection? worker with
  | none => exact idle_effect _
  | some c =>
    obtain ⟨member, rfl⟩ := mem_of_connection? found
    cases phase : c.phase with
    | serving => simpa [phase] using idle_effect _
    | leaving => simpa [phase] using idle_effect _
    | released => simpa [phase] using idle_effect _
    | describing job case? =>
      cases case? with
      | none =>
        have run := run_eq_of_unchanged (Store.getCase_unchanged job.caseId s.store)
        simp only [Option.map_some, phase]
        refine await_effect _ member run (changed_refl _) ?_
        rw [phase]
        exact progress_afterLookUp _ fun _ => ⟨rfl, rfl⟩
      | some case =>
        have run := run_eq_of_unchanged
          (Store.getEvidence_unchanged job.caseId job.evidenceId s.store)
        simp only [Option.map_some, phase]
        refine await_effect _ member run (changed_refl _) ?_
        rw [phase]
        exact progress_afterLookUp _ fun _ => ⟨rfl, rfl⟩
    | failing id missing =>
      rcases run : Store.ack id .failed (missing ++ " no longer exists") s.store
        with ⟨answer, store⟩
      obtain ⟨ch, changed, ⟨rfl, e, rfl⟩ | ⟨kept, now, rfl, rfl⟩⟩ := Store.ack_changed run
      · simp only [Option.map_some, phase]
        refine await_effect _ member run changed ?_
        rw [phase]
        exact .stops rfl (.inr rfl)
      · simp only [Option.map_some, phase]
        refine await_effect _ member run changed ?_
        rw [phase]
        exact .fails
    | writing d =>
      simp only [Option.map_some, phase, Server.write]
      cases written with
      | true =>
        refine .advanced _ member ?_ (changed_refl _) (turned_turn s c.token .serving)
        rw [phase]
        exact .writes
      | false =>
        refine .advanced _ member ?_ (changed_refl _) (turned_turn s c.token .leaving)
        rw [phase]
        exact .stops rfl (.inr rfl)

/-- A task does what it does in its phase, or nothing. -/
theorem whenIn_cases (phase : ConnectionPhase) (worker : WorkerToken) (s : Server)
    (go : Connection → List StreamEvent × Server) :
    whenIn phase worker s go = ([], s) ∨ ∃ c ∈ s.dispatcher.connections, c.token = worker ∧
      c.phase = phase ∧ whenIn phase worker s go = go c := by
  unfold whenIn
  cases found : s.connection? worker with
  | none => exact .inl rfl
  | some c =>
    obtain ⟨member, token⟩ := mem_of_connection? found
    by_cases hc : c.phase = phase
    · exact .inr ⟨c, member, token, hc, if_pos hc⟩
    · exact .inl (if_neg hc)

/-- What is done only in one phase has an effect if it has one there. -/
theorem whenIn_effect {a : Action} {phase : ConnectionPhase} {worker : WorkerToken}
    {go : Connection → List StreamEvent × Server}
    (h : ∀ c ∈ s.dispatcher.connections, c.token = worker → c.phase = phase →
      Effect s a (go c).1 (go c).2) :
    Effect s a (whenIn phase worker s go).1 (whenIn phase worker s go).2 := by
  obtain idle | ⟨c, member, token, hc, goes⟩ := whenIn_cases phase worker s go
  · rw [idle]
    exact idle_effect a
  · rw [goes]
    exact h c member token hc

/-- A timer of a task was reset, and then the task went over to a phase. -/
theorem turned_timers {g : Connection → Connection}
    (hg : ∀ c, (g c).token = c.token ∧ (g c).modules = c.modules) (s : Server)
    (worker : WorkerToken) (phase : ConnectionPhase) :
    Turned worker phase s.dispatcher.connections
      ((s.updateConnection worker g).turn worker phase).dispatcher.connections := by
  rw [Server.turn, updateConnection_updateConnection fun c => (hg c).1]
  refine turned_changeAll (fun c => ?_) _
  exact ⟨(hg c).1, (hg c).2, rfl⟩

/-- What a task makes of the store's answer when it looked for a job. -/
theorem firePoll_effect (a : Action) (keyed : Keyed s.store.jobs.rows)
    (found : c ∈ s.dispatcher.connections) (serving : c.phase = .serving) (now : ℕ) :
    Effect s a (s.firePoll now c).1 (s.firePoll now c).2 := by
  rcases run : Store.claimNext s.dispatcher.token c.token c.modules s.store with ⟨answer, store⟩
  have advance {ch : JobChange} (changed : s.store.Changed ch store)
      (progress : Progress s.store.jobs.rows c .serving ch
        (seen c.token (Server.afterClaim answer)) (Server.afterClaim answer)) :
      Effect s a (s.firePoll now c).1 (s.firePoll now c).2 := by
    let advanced (c : Connection) : Connection := { c with poll := c.poll.advance now }
    rw [Server.firePoll, await_eq (s := s.updateConnection c.token advanced) run]
    refine .advanced a found (serving ▸ progress) changed ?_
    exact turned_timers (g := advanced) (fun _ => ⟨rfl, rfl⟩) s c.token _
  obtain ⟨ch, changed, ⟨rfl, nothing⟩ | ⟨r, member, time, waits, rfl, rfl⟩⟩ :=
    Store.claimNext_changed keyed run
  · refine advance changed ?_
    rcases answer with e | _ | job
    · exact .stops rfl (.inr rfl)
    · exact .goesOn rfl rfl rfl
    · exact absurd rfl (nothing job)
  · refine advance changed ?_
    rw [JobRow.read]
    cases read : (r.claimed c.token s.dispatcher.token time).job? with
    | some job => exact .claims member waits read
    | none => exact .chokes member waits

/-- A sign of life that falls due turns the task and nothing else. -/
theorem fireKeepAlive_effect (a : Action) (found : c ∈ s.dispatcher.connections)
    (serving : c.phase = .serving) (now : ℕ) : Effect s a [] (s.fireKeepAlive now c) := by
  let advanced (c : Connection) : Connection := { c with keepAlive := c.keepAlive.advance now }
  have progress : Progress s.store.jobs.rows c c.phase .idle []
      (.writing (.keepAlive c.token)) := by
    rw [serving]
    exact .goesOn rfl rfl rfl
  exact .advanced a found progress (changed_refl _)
    (turned_timers (g := advanced) (fun _ => ⟨rfl, rfl⟩) s c.token _)

/-- A task that has stopped gives its jobs back. -/
theorem release_effect (found : c ∈ s.dispatcher.connections) (stopped : c.phase = .leaving) :
    Effect s (.release c.token) [] (s.release c.token).2 := by
  rcases run : Store.releaseWorkerJobs c.token s.store with ⟨answer, store⟩
  have after : (s.release c.token).2 =
      (⟨store, s.dispatcher⟩ : Server).turn c.token .released := by
    simp [Server.release, Server.onStore, Dispatcher.reclaimWorkerJobs, run]
  obtain ⟨lost, changed, -⟩ | ⟨there, now, changed, -⟩ := Store.releaseWorkerJobs_changed run
  · rw [after]
    exact .gaveBack found stopped (.inl ⟨lost, rfl⟩) changed (turned_turn _ _ _)
  · rw [after]
    exact .gaveBack found stopped (.inr ⟨there, now, rfl⟩) changed (turned_turn _ _ _)

/-- The task of a new stream has the stream's name and modules, and waits for its timers. -/
theorem of_start? {timing : DispatchTiming} {now : ℕ} {token : WorkerToken}
    {modules : List String} (h : Connection.start? timing now token modules = some c) :
    c.token = token ∧ c.modules = modules ∧ c.phase = .serving := by
  obtain ⟨poll, -, keepAlive, -, rfl⟩ : ∃ poll, _ ∧ ∃ keepAlive, _ ∧ _ := by
    simpa [Connection.start?, Option.bind_eq_some_iff] using h
  exact ⟨rfl, rfl, rfl⟩

/-- A worker that is enrolled has a new session, and at most one new task. -/
theorem enroll_effect (a : Action) (now : ℕ) (modules : List String) (workers : UInt64)
    (remote : String) : Effect s a [] (s.enroll now modules workers remote).2 :=
  .enrolled a rfl (Supply.used_now _) fun _ hc => of_start? hc

/-- What is done to the store leaves the dispatcher alone. -/
theorem onStore_store (s : Server) (op : StoreM α) :
    (s.onStore op).2 = ⟨(op s.store).2, s.dispatcher⟩ := rfl

/-- A single statement has the effect of a request, or none on the jobs. -/
theorem statement_effect (a : Action) (statement : Statement) :
    Effect s a [] (s.onStore (statement.run s.dispatcher)).2 := by
  rw [onStore_store]
  cases statement with
  | enqueue caseId evidenceId moduleName =>
    rw [Statement.run, Store.run_map]
    obtain ⟨ch, changed, ⟨rfl, -⟩ | ⟨row, job, rfl, -⟩⟩ := Store.enqueue_changed rfl
    · exact .requested a changed .idle
    · exact .requested a changed (.queue row)
  | ack report =>
    rw [Statement.run, Store.run_map]
    obtain ⟨ch, changed, ⟨rfl, -⟩ | ⟨kept, now, rfl, -⟩⟩ := Store.ack_changed rfl
    · exact .requested a changed .idle
    · exact .requested a changed (.finish ..)
  | saveCase c => exact .aside a s.dispatcher.stopping (Store.saveCase_aside c s.store)
  | saveEvidence e => exact .aside a s.dispatcher.stopping (Store.saveEvidence_aside e s.store)
  | saveHook h => exact .aside a s.dispatcher.stopping (Store.saveHook_aside h s.store)
  | deleteHook id => exact .aside a s.dispatcher.stopping (Store.deleteHook_aside id s.store)

/-- **Every action has an effect.** -/
theorem act_effect (keyed : Keyed s.store.jobs.rows) (a : Action) :
    Effect s a (act s a).1 (act s a).2 := by
  cases a with
  | connect now params remote =>
    rw [act]
    cases Server.declaredModules params with
    | ok modules => exact enroll_effect _ now modules params.workers remote
    | error e => exact idle_effect _
  | poll now worker =>
    exact whenIn_effect fun c found _ serving => firePoll_effect _ keyed found serving now
  | keepAlive now worker =>
    exact whenIn_effect fun c found _ serving => fireKeepAlive_effect _ found serving now
  | proceed worker written => exact proceed_effect worker written
  | leave worker =>
    refine whenIn_effect fun c found token serving => ?_
    subst token
    refine .advanced _ found ?_ (changed_refl _) (turned_turn s c.token .leaving)
    rw [serving]
    exact .stops rfl (.inl rfl)
  | release worker =>
    refine whenIn_effect fun c found token stopped => ?_
    subst token
    exact release_effect found stopped
  | forget worker =>
    refine whenIn_effect fun c found token done => ?_
    subst token
    exact .forgot found done
  | shutdown => exact .aside _ true (.refl _)
  | request statement => exact statement_effect _ statement
  | reach table lost =>
    cases table with
    | jobs => exact .reached lost
    | _ => exact .aside _ s.dispatcher.stopping ⟨rfl, .refl _⟩

/-! ## What holds of every server -/

/-- Names are handed out once, the job table has its key, and every task has a name of its own. -/
structure Sound (s : Server) : Prop where
  fresh : s.store.supply.Fresh
  keyed : Keyed s.store.jobs.rows
  single : (s.dispatcher.connections.map Connection.token).Nodup
  drawn : ∀ c ∈ s.dispatcher.connections, s.store.supply.Drawn c.token

variable {s' : Server} {a : Action} {events : List StreamEvent}

/-- A name belongs to one task. -/
theorem Sound.eq_of_token (h : Sound s) {c c' : Connection} (hc : c ∈ s.dispatcher.connections)
    (hc' : c' ∈ s.dispatcher.connections) (same : c.token = c'.token) : c = c' :=
  List.inj_on_of_nodup_map h.single hc hc' same

/-- What an action does to the job table is one change, and no name is taken back. -/
theorem Effect.changed (h : Effect s a events s') :
    ∃ ch : JobChange, ch.Allowed s.store.jobs.rows ∧
      s'.store.jobs.rows = ch.apply s.store.jobs.rows ∧
      s.store.supply.Used s'.store.supply := by
  cases h with
  | aside a stopping aside => exact ⟨.idle, trivial, aside.rows, aside.supply⟩
  | requested a changed kind => exact ⟨_, changed.allowed, changed.rows, changed.supply⟩
  | reached lost => exact ⟨.idle, trivial, (JobChange.apply_idle _).symm, .refl _⟩
  | enrolled a drawn used task =>
    exact ⟨.idle, trivial, (JobChange.apply_idle _).symm, (Supply.used_next _).trans used⟩
  | advanced a found progress changed turned =>
    exact ⟨_, changed.allowed, changed.rows, changed.supply⟩
  | gaveBack found stopped given changed turned =>
    exact ⟨_, changed.allowed, changed.rows, changed.supply⟩
  | forgot found done => exact ⟨.idle, trivial, (JobChange.apply_idle _).symm, .refl _⟩

/-- A server keeps its modules. -/
theorem Effect.registry (h : Effect s a events s') :
    s'.dispatcher.registry = s.dispatcher.registry := by
  cases h <;> rfl

/-- **A job stays on record** as the job that it is. -/
theorem Effect.sameJob (h : Effect s a events s') {r : JobRow} (hr : r ∈ s.store.jobs.rows) :
    ∃ r' ∈ s'.store.jobs.rows, r.SameJob r' := by
  obtain ⟨ch, -, rows, -⟩ := h.changed
  exact ⟨ch.onRow r, rows ▸ JobChange.onRow_mem_apply hr, JobChange.onRow_sameJob ch r⟩

/-- A claim is made by a serving task, under its name and for its modules. -/
theorem Progress.claim {rows : List JobRow} {p p' : ConnectionPhase} {id : JobId}
    {worker : WorkerToken} {server : InstanceToken} {now : Timestamp}
    (h : Progress rows c p (.claim id worker server now) events p') :
    p = .serving ∧ worker = c.token ∧ ∃ r ∈ rows, r.id = id ∧ r.isClaimable c.modules = true := by
  generalize made : JobChange.claim id worker server now = ch at h
  cases h with
  | claims mem waits read =>
    obtain ⟨rfl, rfl, -, -⟩ := JobChange.claim.inj made
    exact ⟨rfl, rfl, _, mem, rfl, waits⟩
  | chokes mem waits =>
    obtain ⟨rfl, rfl, -, -⟩ := JobChange.claim.inj made
    exact ⟨rfl, rfl, _, mem, rfl, waits⟩
  | _ => cases made

/-- A row that runs did so before, or a serving task has claimed it. -/
theorem Effect.running (sound : Sound s) (h : Effect s a events s') {r' : JobRow}
    (hr' : r' ∈ s'.store.jobs.rows) (runs : r'.status = .running) :
    r' ∈ s.store.jobs.rows ∨ ∃ c ∈ s.dispatcher.connections, c.phase = .serving ∧
      ∃ r ∈ s.store.jobs.rows, r.isClaimable c.modules = true ∧
        ∃ server now, r' = r.claimed c.token server now := by
  cases h with
  | aside a stopping aside => exact .inl (aside.jobs ▸ hr')
  | requested a changed kind =>
    obtain old | ⟨r, -, worker, server, now, rfl, -⟩ :=
      JobChange.running_of_mem_apply (changed.rows ▸ hr') runs changed.allowed
    · exact .inl old
    · exact nomatch kind
  | reached lost => exact .inl hr'
  | enrolled a drawn used task => exact .inl hr'
  | @advanced a c _ _ phase _ _ found progress changed turned =>
    obtain old | ⟨r, hr, worker, server, now, rfl, claimed⟩ :=
      JobChange.running_of_mem_apply (changed.rows ▸ hr') runs changed.allowed
    · exact .inl old
    · obtain ⟨serving, rfl, r₀, hr₀, same, waits⟩ := progress.claim
      obtain rfl := sound.keyed.eq_of_id hr₀ hr same
      exact .inr ⟨c, found, serving, r₀, hr, waits, server, now, claimed⟩
  | gaveBack found stopped given changed turned =>
    obtain old | ⟨r, -, worker, server, now, rfl, -⟩ :=
      JobChange.running_of_mem_apply (changed.rows ▸ hr') runs changed.allowed
    · exact .inl old
    · obtain ⟨-, he⟩ | ⟨-, _, he⟩ := given <;> exact nomatch he
  | forgot found done => exact .inl hr'

/-- Only a task that serves makes progress. -/
theorem Progress.serves {rows : List JobRow} {ch : JobChange} {p p' : ConnectionPhase}
    (h : Progress rows c p ch events p') : p.serves = true := by
  cases h with
  | goesOn serves still hand => exact serves
  | stops serves silent => exact serves
  | _ => rfl

/-- Progress does not give jobs back. -/
theorem Progress.next_ne_released {rows : List JobRow} {ch : JobChange} {p p' : ConnectionPhase}
    (h : Progress rows c p ch events p') : p' ≠ .released := by
  rintro rfl
  cases h with
  | goesOn serves still hand => simp [ConnectionPhase.serves] at still

/-- A task that has given its jobs back makes no progress. -/
theorem Progress.ne_released {rows : List JobRow} {ch : JobChange} {p p' : ConnectionPhase}
    (h : Progress rows c p ch events p') : p ≠ .released := by
  rintro rfl
  simpa [ConnectionPhase.serves] using h.serves

/-- A task after an action is a new one with a session, or one from before under the same name; a
task that gave its jobs back stays as it is. -/
theorem Effect.task (sound : Sound s) (h : Effect s a events s') {c' : Connection}
    (hc' : c' ∈ s'.dispatcher.connections) :
    (c'.token = s.store.supply.next.1 ∧ s'.store.supply.Drawn c'.token ∧ c'.phase = .serving ∧
      ∃ e ∈ s'.dispatcher.sessions.entries, e.workerToken = c'.token ∧
        e.supportedModules = c'.modules) ∨
      ∃ c ∈ s.dispatcher.connections, c'.token = c.token ∧ c'.modules = c.modules ∧
        (c.phase = .released → c' = c) := by
  cases h with
  | aside a stopping aside => exact .inr ⟨c', hc', rfl, rfl, fun _ => rfl⟩
  | requested a changed kind => exact .inr ⟨c', hc', rfl, rfl, fun _ => rfl⟩
  | reached lost => exact .inr ⟨c', hc', rfl, rfl, fun _ => rfl⟩
  | enrolled a drawn used task =>
    obtain old | new := List.mem_append.1 hc'
    · exact .inr ⟨c', old, rfl, rfl, fun _ => rfl⟩
    · obtain ⟨token, modules, serving⟩ := task c' (by simpa using new)
      have name := token.trans drawn
      exact .inl ⟨name, name ▸ used.drawn (Supply.drawn_next _), serving, _,
        Sessions.mem_insert.2 (.inr rfl), token.symm, modules.symm⟩
  | @advanced a c _ _ _ _ _ found progress changed turned =>
    obtain ⟨c₀, hc₀, token, modules, moved⟩ := turned.kept c' hc'
    refine .inr ⟨c₀, hc₀, token, modules, fun done => ?_⟩
    by_cases same : c₀.token = c.token
    · exact absurd (sound.eq_of_token hc₀ found same ▸ done) progress.ne_released
    · simpa [same] using moved
  | @gaveBack c _ _ _ found stopped given changed turned =>
    obtain ⟨c₀, hc₀, token, modules, moved⟩ := turned.kept c' hc'
    refine .inr ⟨c₀, hc₀, token, modules, fun done => ?_⟩
    by_cases same : c₀.token = c.token
    · rw [sound.eq_of_token hc₀ found same, stopped] at done
      cases done
    · simpa [same] using moved
  | forgot found done => exact .inr ⟨c', List.mem_of_mem_filter hc', rfl, rfl, fun _ => rfl⟩

/-- A task that has given its jobs back did so before, or by this action.  Then it had stopped, and
nothing runs under its name any more unless the job table is out of reach. -/
theorem Effect.released_by (h : Effect s a events s') {c' : Connection}
    (hc' : c' ∈ s'.dispatcher.connections) (done : c'.phase = .released) :
    c' ∈ s.dispatcher.connections ∨ a = .release c'.token ∧
      (∃ c ∈ s.dispatcher.connections, c.token = c'.token ∧ c.phase = .leaving) ∧
        (s.store.jobs.lost = true ∨
          ∀ r ∈ s'.store.jobs.rows, r.status = .running → r.workerToken ≠ c'.token) := by
  cases h with
  | aside a stopping aside => exact .inl hc'
  | requested a changed kind => exact .inl hc'
  | reached lost => exact .inl hc'
  | enrolled a drawn used task =>
    obtain old | new := List.mem_append.1 hc'
    · exact .inl old
    · rw [(task c' (by simpa using new)).2.2] at done
      cases done
  | @advanced a c _ _ _ _ _ found progress changed turned =>
    obtain ⟨c₀, hc₀, -, -, moved⟩ := turned.kept c' hc'
    by_cases same : c₀.token = c.token
    · simp only [same, if_true] at moved
      exact absurd (moved ▸ done) progress.next_ne_released
    · simp only [same, if_false] at moved
      exact .inl (moved ▸ hc₀)
  | @gaveBack c _ _ _ found stopped given changed turned =>
    obtain ⟨c₀, hc₀, token, -, moved⟩ := turned.kept c' hc'
    by_cases same : c₀.token = c.token
    · rw [token, same]
      refine .inr ⟨rfl, ⟨c, found, rfl, stopped⟩, ?_⟩
      obtain ⟨lost, -⟩ | ⟨-, now, rfl⟩ := given
      · exact .inl lost
      · exact .inr fun r hr runs => (JobChange.running_of_mem_release (changed.rows ▸ hr) runs).2
    · simp only [same, if_false] at moved
      exact .inl (moved ▸ hc₀)
  | forgot found done => exact .inl (List.mem_of_mem_filter hc')

/-- With the job table in reach, nothing runs under the name of a task that has just given its jobs
back. -/
theorem Effect.released (h : Effect s a events s') (there : s.store.jobs.lost = false)
    {c' : Connection} (hc' : c' ∈ s'.dispatcher.connections) (done : c'.phase = .released) :
    c' ∈ s.dispatcher.connections ∨
      ∀ r ∈ s'.store.jobs.rows, r.status = .running → r.workerToken ≠ c'.token := by
  obtain old | ⟨-, -, lost | idle⟩ := h.released_by hc' done
  · exact .inl old
  · simp [there] at lost
  · exact .inr idle

/-- A session stays on record, or its task has given its jobs back and is gone. -/
theorem Effect.session (sound : Sound s) (h : Effect s a events s') {e : WorkerSession}
    (he : e ∈ s.dispatcher.sessions.entries) (drawn : s.store.supply.Drawn e.workerToken) :
    e ∈ s'.dispatcher.sessions.entries ∨
      (∃ c ∈ s.dispatcher.connections, c.token = e.workerToken ∧ c.phase = .released) ∧
        ∀ c' ∈ s'.dispatcher.connections, c'.token ≠ e.workerToken := by
  cases h with
  | @enrolled a session _ _ new used task =>
    have other : e.workerToken ≠ session.workerToken := fun same =>
      sound.fresh.not_drawn_next (new ▸ same ▸ drawn)
    exact .inl (Sessions.mem_insert.2 (.inl ⟨he, other⟩))
  | @forgot c found done =>
    by_cases same : c.token = e.workerToken
    · refine .inr ⟨⟨c, found, same, done⟩, fun c' hc' => ?_⟩
      simpa [same] using (List.mem_filter.1 hc').2
    · exact .inl (Sessions.mem_without.2 ⟨he, Ne.symm same⟩)
  | _ => exact .inl he

/-- A session on record was there before, or its name is the next one, which has been drawn. -/
theorem Effect.session_new (h : Effect s a events s') {e : WorkerSession}
    (he : e ∈ s'.dispatcher.sessions.entries) :
    e ∈ s.dispatcher.sessions.entries ∨
      e.workerToken = s.store.supply.next.1 ∧ s'.store.supply.Drawn e.workerToken := by
  cases h with
  | enrolled a new used task =>
    obtain ⟨old, -⟩ | rfl := Sessions.mem_insert.1 he
    · exact .inl old
    · exact .inr ⟨new, new ▸ used.drawn (Supply.drawn_next _)⟩
  | forgot found done => exact .inl (Sessions.mem_without.1 he).1
  | _ => exact .inl he

/-- A session is an old one, or its token was drawn. -/
theorem Effect.session_drawn (h : Effect s a events s') {e : WorkerSession}
    (he : e ∈ s'.dispatcher.sessions.entries) :
    e ∈ s.dispatcher.sessions.entries ∨ s'.store.supply.Drawn e.workerToken :=
  (h.session_new he).imp_right And.right

/-- The job table gets out of reach by nothing but `reach`. -/
theorem Effect.lost (h : Effect s a events s') (ne : a ≠ .reach .jobs true)
    (there : s.store.jobs.lost = false) : s'.store.jobs.lost = false := by
  cases h with
  | aside a stopping aside => rw [aside.jobs, there]
  | requested a changed kind => rw [changed.lost, there]
  | reached lost =>
    cases lost with
    | true => exact absurd rfl ne
    | false => rfl
  | enrolled a drawn used task => exact there
  | advanced a found progress changed turned => rw [changed.lost, there]
  | gaveBack found stopped given changed turned => rw [changed.lost, there]
  | forgot found done => exact there

/-- **Soundness is kept** by every action. -/
theorem Sound.effect (h : Sound s) (e : Effect s a events s') : Sound s' := by
  obtain ⟨ch, allowed, rows, used⟩ := e.changed
  refine ⟨used.fresh h.fresh, rows ▸ JobChange.keyed_apply allowed h.keyed, ?_, fun c' hc' => ?_⟩
  · cases e with
    | @enrolled a session task? supply drawn used task =>
      have new : ∀ c ∈ s.dispatcher.connections, c.token ≠ s.store.supply.next.1 :=
        fun c hc same => h.fresh.not_drawn_next (same ▸ h.drawn c hc)
      rw [List.map_append, List.nodup_append]
      refine ⟨h.single, ?_, fun token old token' added => ?_⟩
      · cases task? <;> simp
      · obtain ⟨c, hc, rfl⟩ := List.mem_map.1 old
        obtain ⟨c', hc', rfl⟩ := List.mem_map.1 added
        rw [(task c' (by simpa using hc')).1, drawn]
        exact new c hc
    | advanced a found progress changed turned => exact turned.tokens ▸ h.single
    | gaveBack found stopped given changed turned => exact turned.tokens ▸ h.single
    | forgot found done => exact h.single.sublist (List.filter_sublist.map _)
    | _ => exact h.single
  · obtain ⟨-, drawn, -⟩ | ⟨c, hc, token, -⟩ := e.task h hc'
    · exact drawn
    · exact token ▸ used.drawn (h.drawn c hc)

end Dispatch
end Casework
