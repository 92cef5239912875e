/-
# One task among the others

What becomes of one worker's task and of one worker's jobs while everything else goes on.  `Effect`
tells what an action comes to and forgets which action it was; here the actions are told apart.

* The task of a worker goes from phase to phase by its own actions and by no other (`TaskGoes`,
  `phase?_act`).  So a task that serves goes on to serve until it leaves, and if it does not leave
  by itself the worker is told (`serves_act`).
* A change of the job table belongs to the action that makes it (`Makes`, `act_makes`).  So a job
  that runs under a worker goes on to run, unless a report on it arrives, the task that claimed it
  fails it for want of a record, or the worker's task gives it back (`RunsUnder.act`).
* What a task has in hand it has claimed (`hand_act`).
-/

import Casework.Proofs.Dispatch.Reports
import Casework.Proofs.Dispatch.Schedules

namespace Casework

/-- The worker whose stream an event is about. -/
def StreamEvent.worker : StreamEvent → WorkerToken
  | .line worker _ => worker
  | .closed worker => worker

/-- A line that a task is about to write is a sign of life or hands a job out. -/
def ConnectionPhase.Sane (worker : WorkerToken) (p : ConnectionPhase) : Prop :=
  ∀ d, p = .writing d → d = .keepAlive worker ∨ d.case?.isSome = true

namespace Dispatch

variable {s : Server} {a : Action} {worker other : WorkerToken} {p p' : ConnectionPhase}
  {id : JobId}

/-! ## The phases of a task -/

/-- The worker whose task takes the turn. -/
def Action.task? : Action → Option WorkerToken
  | .poll _ worker => some worker
  | .keepAlive _ worker => some worker
  | .proceed worker _ => some worker
  | .leave worker => some worker
  | .release worker => some worker
  | .forget worker => some worker
  | _ => none

/-- How the task of a worker goes from a phase to the next, with the answer of the store that it
waited for, and what the worker sees. -/
inductive TaskGoes (worker : WorkerToken) :
    ConnectionPhase → Action → List StreamEvent → ConnectionPhase → Prop where
  | polls (now : ℕ) (answer : Except Error (Option Job)) :
      TaskGoes worker .serving (.poll now worker) (seen worker (Server.afterClaim answer))
        (Server.afterClaim answer)
  | beats (now : ℕ) :
      TaskGoes worker .serving (.keepAlive now worker) [] (.writing (.keepAlive worker))
  | looksUpCase (job : Job) (written : Bool) {next : ConnectionPhase} (answer : Except Error Case)
      (goes : next = Server.afterLookUp job.id (fun c => .describing job (some c)) answer) :
      TaskGoes worker (.describing job none) (.proceed worker written) (seen worker next) next
  | looksUpItem (job : Job) (c : Case) (written : Bool) {next : ConnectionPhase}
      (answer : Except Error Evidence)
      (goes : next = Server.afterLookUp job.id (fun e => .writing (.ofJob job worker c e)) answer) :
      TaskGoes worker (.describing job (some c)) (.proceed worker written) (seen worker next) next
  | fails (id : JobId) (missing : String) (written : Bool) (answer : Except Error Bool) :
      TaskGoes worker (.failing id missing) (.proceed worker written)
        (seen worker (Server.afterFailing answer)) (Server.afterFailing answer)
  | writes (d : JobDescriptor) :
      TaskGoes worker (.writing d) (.proceed worker true) [.line worker d] .serving
  | breaks (d : JobDescriptor) :
      TaskGoes worker (.writing d) (.proceed worker false) [.closed worker] .leaving
  | leaves : TaskGoes worker .serving (.leave worker) [] .leaving
  | releases : TaskGoes worker .leaving (.release worker) [] .released

/-- A change of one task leaves the phases of the others. -/
theorem phase?_updateConnection_of_ne (f : Connection → Connection)
    (keep : ∀ c, (f c).token = c.token) (s : Server) (ne : other ≠ worker) :
    (s.updateConnection worker f).phase? other = s.phase? other := by
  unfold Server.phase? Server.updateConnection Server.connection? changeAll
  rw [List.find?_map]
  have same : ((fun c : Connection => c.token == other) ∘
      fun c => if c.token == worker then f c else c) = fun c => c.token == other := by
    funext c
    by_cases h : c.token = worker <;> simp [h, keep]
  rw [same]
  cases found : s.dispatcher.connections.find? fun c => c.token == other with
  | none => rfl
  | some c =>
    have token : c.token = other := by simpa using List.find?_some found
    have ne : ¬ c.token = worker := by rwa [token]
    simp [ne]

/-- A turn of one task leaves the phases of the others. -/
theorem phase?_turn_of_ne (s : Server) (phase : ConnectionPhase) (ne : other ≠ worker) :
    (s.turn worker phase).phase? other = s.phase? other :=
  phase?_updateConnection_of_ne (fun c => { c with phase := phase }) (fun _ => rfl) s ne

/-- When one worker is forgotten, the others stand where they stood. -/
theorem phase?_forget_of_ne (s : Server) (ne : other ≠ worker) :
    (s.forget worker).phase? other = s.phase? other := by
  unfold Server.phase? Server.forget Server.connection?
  rw [List.find?_filter]
  refine congrArg (fun q => (List.find? q s.dispatcher.connections).map Connection.phase)
    (funext fun c => ?_)
  by_cases h : c.token = other <;> simp [h, ne]

/-- A task that waits for an answer goes where the answer leads. -/
theorem phase?_await {α : Type} (s : Server) (worker : WorkerToken) (op : StoreM α)
    (next : Except Error α → ConnectionPhase) :
    (s.await worker op next).2.phase? worker =
      (s.phase? worker).map fun _ => next (op s.store).1 :=
  phase?_turn (s.onStore op).2 worker (next (op s.store).1)

/-- A task goes over to the phase that it turns to. -/
theorem phase?_turn_self (h : s.phase? worker = some p) (phase : ConnectionPhase) :
    (s.turn worker phase).phase? worker = some phase := by
  rw [phase?_turn, h]
  rfl

/-- A task that stands somewhere and waits for an answer goes where the answer leads. -/
theorem phase?_await_self {α : Type} (h : s.phase? worker = some p) (op : StoreM α)
    (next : Except Error α → ConnectionPhase) :
    (s.await worker op next).2.phase? worker = some (next (op s.store).1) := by
  rw [phase?_await, h]
  rfl

/-- An answer to one task leaves the phases of the others. -/
theorem phase?_await_of_ne {α : Type} (s : Server) (op : StoreM α)
    (next : Except Error α → ConnectionPhase) (ne : other ≠ worker) :
    (s.await worker op next).2.phase? other = s.phase? other :=
  phase?_turn_of_ne (s.onStore op).2 (next (op s.store).1) ne

/-- What is seen of a task is about its worker. -/
theorem worker_of_mem_seen {e : StreamEvent} (h : e ∈ seen worker p) : e.worker = worker := by
  unfold seen at h
  split at h
  · rw [List.mem_singleton.1 h]
    rfl
  · cases h

/-- **Another task's turn,** or the turn of no task, leaves the task where it is. -/
theorem phase?_act_of_ne (h : s.phase? worker = some p) (others : a.task? ≠ some worker) :
    (act s a).2.phase? worker = some p ∧ ∀ e ∈ (act s a).1, e.worker ≠ worker := by
  have own {w : WorkerToken} (turn : a.task? = some w) : worker ≠ w := by
    rintro rfl
    exact others turn
  have silent {s' : Server} (same : s'.phase? worker = some p) :
      s'.phase? worker = some p ∧ ∀ e ∈ ([] : List StreamEvent), e.worker ≠ worker :=
    ⟨same, fun e he => absurd he List.not_mem_nil⟩
  have one {s' : Server} (same : s'.phase? worker = some p) {e : StreamEvent}
      (ne : worker ≠ e.worker) :
      s'.phase? worker = some p ∧ ∀ e' ∈ [e], e'.worker ≠ worker :=
    ⟨same, fun e' he => List.mem_singleton.1 he ▸ ne.symm⟩
  have await {α : Type} {w : WorkerToken} (ne : worker ≠ w) {s : Server}
      (h : s.phase? worker = some p) (op : StoreM α) (next : Except Error α → ConnectionPhase) :
      (s.await w op next).2.phase? worker = some p ∧
        ∀ e ∈ (s.await w op next).1, e.worker ≠ worker :=
    ⟨(phase?_await_of_ne s op next ne).trans h, fun e he => worker_of_mem_seen he ▸ ne.symm⟩
  have whenIn {phase : ConnectionPhase} {w : WorkerToken}
      {go : Connection → List StreamEvent × Server}
      (goes : ∀ c, c.token = w → (go c).2.phase? worker = some p ∧
        ∀ e ∈ (go c).1, e.worker ≠ worker) :
      (whenIn phase w s go).2.phase? worker = some p ∧
        ∀ e ∈ (whenIn phase w s go).1, e.worker ≠ worker := by
    obtain idle | ⟨c, -, token, -, same⟩ := whenIn_cases phase w s go
    · rw [idle]
      exact silent h
    · rw [same]
      exact goes c token
  cases a with
  | connect now params remote =>
    rw [act]
    cases Server.declaredModules params with
    | error e => exact silent h
    | ok modules =>
      refine silent ?_
      obtain ⟨c, found, there⟩ := Option.map_eq_some_iff.1 h
      unfold Server.connection? at found
      simp [Server.phase?, Server.connection?, Server.enroll, List.find?_append, found, there]
  | poll now w =>
    refine whenIn fun c token => ?_
    subst token
    refine await (own rfl) ?_ _ _
    exact (phase?_updateConnection_of_ne (fun c => { c with poll := c.poll.advance now })
      (fun _ => rfl) s (own rfl)).trans h
  | keepAlive now w =>
    refine whenIn fun c token => silent ?_
    subst token
    rw [Server.fireKeepAlive, phase?_turn_of_ne _ _ (own rfl)]
    exact (phase?_updateConnection_of_ne (fun c => { c with keepAlive := c.keepAlive.advance now })
      (fun _ => rfl) s (own rfl)).trans h
  | proceed w written =>
    rw [act]
    unfold Server.proceed
    split
    · exact await (own rfl) h _ _
    · exact await (own rfl) h _ _
    · exact await (own rfl) h _ _
    · cases written with
      | true => exact one ((phase?_turn_of_ne s _ (own rfl)).trans h) (own rfl)
      | false => exact one ((phase?_turn_of_ne s _ (own rfl)).trans h) (own rfl)
    · exact silent h
  | leave w => exact whenIn fun c token => silent ((phase?_turn_of_ne s _ (own rfl)).trans h)
  | release w =>
    exact whenIn fun c token => silent ((phase?_turn_of_ne _ _ (own rfl)).trans h)
  | forget w => exact whenIn fun c token => silent ((phase?_forget_of_ne s (own rfl)).trans h)
  | shutdown => exact silent h
  | request statement => exact silent h
  | reach table lost => exact silent h

/-- **A turn of the task's own** does nothing, or the task goes on, or it drops its session. -/
theorem phase?_act_of_eq (h : s.phase? worker = some p) (own : a.task? = some worker) :
    act s a = ([], s) ∨
      (∃ p', TaskGoes worker p a (act s a).1 p' ∧ (act s a).2.phase? worker = some p') ∨
      a = .forget worker ∧ p = .released ∧ (act s a).1 = [] := by
  obtain ⟨c, found, there⟩ := Option.map_eq_some_iff.1 h
  obtain rfl : c.token = worker := (mem_of_connection? found).2
  have whenIn (phase : ConnectionPhase) (go : Connection → List StreamEvent × Server) :
      whenIn phase c.token s go = ([], s) ∨ p = phase ∧ whenIn phase c.token s go = go c := by
    unfold Dispatch.whenIn
    rw [found]
    by_cases same : c.phase = phase
    · exact .inr ⟨there.symm.trans same, if_pos same⟩
    · exact .inl (if_neg same)
  cases a with
  | poll now w =>
    obtain rfl := Option.some.inj own
    obtain idle | ⟨rfl, goes⟩ := whenIn .serving fun c => s.firePoll now c
    · exact .inl idle
    · let answer := (Store.claimNext s.dispatcher.token c.token c.modules s.store).1
      refine .inr (.inl ⟨Server.afterClaim answer, ?_, ?_⟩)
      · rw [act, goes]
        exact .polls now answer
      · rw [act, goes, Server.firePoll, phase?_await, Server.phase?,
          connection?_updateConnection (fun c => { c with poll := c.poll.advance now })
            (fun _ => rfl), found]
        rfl
  | keepAlive now w =>
    obtain rfl := Option.some.inj own
    obtain idle | ⟨rfl, goes⟩ := whenIn .serving fun c => ([], s.fireKeepAlive now c)
    · exact .inl idle
    · refine .inr (.inl ⟨.writing (.keepAlive c.token), ?_, ?_⟩)
      · rw [act, goes]
        exact .beats now
      · rw [act, goes, Server.fireKeepAlive, phase?_turn, Server.phase?,
          connection?_updateConnection (fun c => { c with keepAlive := c.keepAlive.advance now })
            (fun _ => rfl), found]
        rfl
  | proceed w written =>
    obtain rfl := Option.some.inj own
    have phase : (s.connection? c.token).map Connection.phase = some p := h
    rw [act]
    unfold Server.proceed
    rw [phase]
    cases p with
    | describing job case? =>
      cases case? with
      | none => exact .inr (.inl ⟨_, .looksUpCase job written _ rfl, phase?_await_self h _ _⟩)
      | some c =>
        exact .inr (.inl ⟨_, .looksUpItem job c written _ rfl, phase?_await_self h _ _⟩)
    | failing id missing =>
      exact .inr (.inl ⟨_, .fails id missing written _, phase?_await_self h _ _⟩)
    | writing d =>
      cases written with
      | true => exact .inr (.inl ⟨_, .writes d, phase?_turn_self h _⟩)
      | false => exact .inr (.inl ⟨_, .breaks d, phase?_turn_self h _⟩)
    | serving => exact .inl rfl
    | leaving => exact .inl rfl
    | released => exact .inl rfl
  | leave w =>
    obtain rfl := Option.some.inj own
    obtain idle | ⟨rfl, goes⟩ := whenIn .serving fun _ => ([], s.leave c.token)
    · exact .inl idle
    · rw [act, goes]
      exact .inr (.inl ⟨_, .leaves, phase?_turn_self h _⟩)
  | release w =>
    obtain rfl := Option.some.inj own
    obtain idle | ⟨rfl, goes⟩ := whenIn .leaving fun _ => ([], (s.release c.token).2)
    · exact .inl idle
    · rw [act, goes]
      refine .inr (.inl ⟨_, .releases, ?_⟩)
      rw [phase?_release, h]
      rfl
  | forget w =>
    obtain rfl := Option.some.inj own
    obtain idle | ⟨rfl, goes⟩ := whenIn .released fun _ => ([], s.forget c.token)
    · exact .inl idle
    · rw [act, goes]
      exact .inr (.inr ⟨rfl, rfl, rfl⟩)
  | _ => cases own

/-- **What becomes of a task by one action:** it stays where it is and its worker sees nothing, or
it goes on, or it drops its session. -/
theorem phase?_act (h : s.phase? worker = some p) (a : Action) :
    ((act s a).2.phase? worker = some p ∧ ∀ e ∈ (act s a).1, e.worker ≠ worker) ∨
      (∃ p', TaskGoes worker p a (act s a).1 p' ∧ (act s a).2.phase? worker = some p') ∨
      a = .forget worker ∧ p = .released ∧ (act s a).1 = [] := by
  by_cases own : a.task? = some worker
  · obtain idle | goes := phase?_act_of_eq h own
    · rw [idle]
      exact .inl ⟨h, fun e he => absurd he List.not_mem_nil⟩
    · exact .inr goes
  · exact .inl (phase?_act_of_ne h own)

/-- A task that waited for an answer serves then, or it leaves and its worker is told. -/
theorem serves_or_seen (next : ConnectionPhase) (there : next ≠ .released) :
    next.serves = true ∨ next = .leaving ∧ seen worker next = [.closed worker] := by
  cases next with
  | leaving => exact .inr ⟨rfl, rfl⟩
  | released => exact absurd rfl there
  | _ => exact .inl rfl

/-- A look-up does not give jobs back. -/
theorem afterLookUp_ne_released {α : Type} {found : α → ConnectionPhase}
    (there : ∀ x, found x ≠ .released) (id : JobId) (answer : Except Error α) :
    Server.afterLookUp id found answer ≠ .released := by
  cases answer with
  | ok x => exact there x
  | error e => cases e <;> exact nofun

/-- **A task that goes on** serves then, or it leaves: by itself, and its worker is told, or because
its worker is gone. -/
theorem TaskGoes.serves_or {events : List StreamEvent} (goes : TaskGoes worker p a events p')
    (serves : p.serves = true) :
    p'.serves = true ∨ p' = .leaving ∧ (events = [.closed worker] ∨ a = .leave worker) := by
  have awaited {next : ConnectionPhase} (there : next ≠ .released) : next.serves = true ∨
      next = .leaving ∧ (seen worker next = [.closed worker] ∨ a = .leave worker) :=
    (serves_or_seen next there).imp_right fun ⟨left, told⟩ => ⟨left, .inl told⟩
  cases goes with
  | polls now answer => exact awaited (by rcases answer with e | _ | job <;> exact nofun)
  | looksUpCase job written answer goes =>
    subst goes
    refine awaited (afterLookUp_ne_released ?_ _ _)
    exact fun _ => nofun
  | looksUpItem job c written answer goes =>
    subst goes
    refine awaited (afterLookUp_ne_released ?_ _ _)
    exact fun _ => nofun
  | fails id missing written answer => exact awaited (by cases answer <;> exact nofun)
  | beats now => exact .inl rfl
  | writes d => exact .inl rfl
  | breaks d => exact .inr ⟨rfl, .inl rfl⟩
  | leaves => exact .inr ⟨rfl, .inr rfl⟩
  | releases => cases serves

/-- **A task that serves goes on to serve,** as long as its worker is neither told otherwise nor
gone. -/
theorem serves_act (h : s.phase? worker = some p) (serves : p.serves = true)
    (stays : a ≠ .leave worker) (silent : .closed worker ∉ (act s a).1) :
    ∃ p', (act s a).2.phase? worker = some p' ∧ p'.serves = true := by
  obtain ⟨same, -⟩ | ⟨p', goes, after⟩ | ⟨-, rfl, -⟩ := phase?_act h a
  · exact ⟨p, same, serves⟩
  · obtain still | ⟨-, told | left⟩ := goes.serves_or serves
    · exact ⟨p', after, still⟩
    · exact absurd (told ▸ List.mem_singleton_self _) silent
    · exact absurd left stays
  · cases serves

/-- A task that takes a turn stands in a sane phase. -/
theorem TaskGoes.sane {events : List StreamEvent} (goes : TaskGoes worker p a events p') :
    p'.Sane worker := by
  intro d writes
  cases goes with
  | polls now answer => rcases answer with e | _ | job <;> cases writes
  | beats now =>
    obtain rfl := ConnectionPhase.writing.inj writes
    exact .inl rfl
  | looksUpCase job written answer goes =>
    subst writes
    rcases answer with e | c
    · cases e <;> cases goes
    · cases goes
  | looksUpItem job c written answer goes =>
    subst writes
    rcases answer with e | item
    · cases e <;> cases goes
    · obtain rfl := ConnectionPhase.writing.inj goes
      exact .inr rfl
  | fails id missing written answer => cases answer <;> cases writes
  | writes => cases writes
  | breaks => cases writes
  | leaves => cases writes
  | releases => cases writes

/-- A line that the worker sees is the one that its task was about to write. -/
theorem TaskGoes.line {events : List StreamEvent} (goes : TaskGoes worker p a events p')
    {d : JobDescriptor} (shown : .line worker d ∈ events) : p = .writing d := by
  have awaited {next : ConnectionPhase} : .line worker d ∉ seen worker next := by
    unfold seen
    split <;> simp
  cases goes with
  | writes d' =>
    obtain ⟨-, rfl⟩ := StreamEvent.line.inj (List.mem_singleton.1 shown)
    rfl
  | breaks => simp at shown
  | beats => cases shown
  | leaves => cases shown
  | releases => cases shown
  | _ => exact absurd shown awaited

/-- A line is seen when the task was about to write it. -/
theorem line_act (h : s.phase? worker = some p) {d : JobDescriptor}
    (shown : .line worker d ∈ (act s a).1) : p = .writing d := by
  obtain ⟨-, others⟩ | ⟨p', goes, -⟩ | ⟨-, -, silent⟩ := phase?_act h a
  · exact absurd rfl (others _ shown)
  · exact goes.line shown
  · rw [silent] at shown
    cases shown

/-! ## The jobs of a worker -/

/-- Which action makes which change of the job table. -/
inductive Makes (s : Server) : Action → JobChange → Prop where
  | idle (a : Action) : Makes s a .idle
  | queues (caseId evidenceId moduleName : String) (row : JobRow) :
      Makes s (.request (.enqueue caseId evidenceId moduleName)) (.queue row)
  | claims (now : ℕ) (worker : WorkerToken) (id : JobId) (t : Timestamp) :
      Makes s (.poll now worker) (.claim id worker s.dispatcher.token t)
  | reports (report : AckRequest) (kept : String) (t : Timestamp) :
      Makes s (.request (.ack report)) (.finish report.id report.status kept t)
  | fails {worker : WorkerToken} {id : JobId} {missing : String} (written : Bool) (kept : String)
      (t : Timestamp) (due : s.phase? worker = some (.failing id missing)) :
      Makes s (.proceed worker written) (.finish id .failed kept t)
  | givesBack (worker : WorkerToken) (t : Timestamp) :
      Makes s (.release worker) (.release worker t)

/-- **Every action makes its own change** of the job table, or none. -/
theorem act_makes (keyed : Keyed s.store.jobs.rows) (a : Action) :
    ∃ ch : JobChange, ch.Allowed s.store.jobs.rows ∧
      (act s a).2.store.jobs.rows = ch.apply s.store.jobs.rows ∧ Makes s a ch := by
  have same {s' : Server} (rows : s'.store.jobs.rows = s.store.jobs.rows) :
      ∃ ch : JobChange, ch.Allowed s.store.jobs.rows ∧
        s'.store.jobs.rows = ch.apply s.store.jobs.rows ∧ Makes s a ch :=
    ⟨.idle, trivial, by rw [rows, JobChange.apply_idle], .idle a⟩
  cases a with
  | connect now params remote =>
    rw [act]
    cases Server.declaredModules params <;> exact same rfl
  | poll now worker =>
    obtain idle | ⟨c, -, rfl, -, goes⟩ := whenIn_cases .serving worker s fun c => s.firePoll now c
    · exact same (by rw [act, idle])
    · have after : (act s (.poll now c.token)).2.store =
          (Store.claimNext s.dispatcher.token c.token c.modules s.store).2 := by
        rw [act, goes]
        rfl
      rcases run : Store.claimNext s.dispatcher.token c.token c.modules s.store with ⟨answer, store⟩
      rw [run] at after
      obtain ⟨ch, changed, ⟨rfl, -⟩ | ⟨r, -, t, -, rfl, -⟩⟩ := Store.claimNext_changed keyed run
      · exact ⟨.idle, trivial, after ▸ changed.rows, .idle _⟩
      · exact ⟨_, changed.allowed, after ▸ changed.rows, .claims now c.token r.id t⟩
  | keepAlive now worker =>
    obtain idle | ⟨c, -, rfl, -, goes⟩ := whenIn_cases .serving worker s
      fun c => ([], s.fireKeepAlive now c)
    · exact same (by rw [act, idle])
    · exact same (by rw [act, goes]; rfl)
  | proceed worker written =>
    have looked {α : Type} {op : StoreM α} {next : Except Error α → ConnectionPhase}
        (look : (op s.store).2 = s.store) :
        (s.await worker op next).2.store.jobs.rows = s.store.jobs.rows := by
      change (op s.store).2.jobs.rows = _
      rw [look]
    rw [act]
    unfold Server.proceed
    split
    next job _ => exact same (looked (Store.getCase_unchanged job.caseId s.store))
    next job c _ =>
      exact same (looked (Store.getEvidence_unchanged job.caseId job.evidenceId s.store))
    next id missing due =>
      rcases run : Store.ack id .failed (missing ++ " no longer exists") s.store
        with ⟨answer, store⟩
      have after : (s.await worker (Store.ack id .failed (missing ++ " no longer exists"))
          Server.afterFailing).2.store = store := congrArg Prod.snd run
      obtain ⟨ch, changed, ⟨rfl, -⟩ | ⟨kept, t, rfl, -⟩⟩ := Store.ack_changed run
      · exact ⟨.idle, trivial, after ▸ changed.rows, .idle _⟩
      · exact ⟨_, changed.allowed, after ▸ changed.rows, .fails written kept t due⟩
    next d _ => cases written <;> exact same rfl
    next => exact same rfl
  | leave worker =>
    obtain idle | ⟨c, -, -, -, goes⟩ := whenIn_cases .serving worker s fun _ => ([], s.leave worker)
    · exact same (by rw [act, idle])
    · exact same (by rw [act, goes]; rfl)
  | release worker =>
    obtain idle | ⟨c, -, -, -, goes⟩ := whenIn_cases .leaving worker s
      fun _ => ([], (s.release worker).2)
    · exact same (by rw [act, idle])
    · rcases run : Store.releaseWorkerJobs worker s.store with ⟨answer, store⟩
      have after : (act s (.release worker)).2.store = store := by
        rw [act, goes]
        exact congrArg Prod.snd run
      obtain ⟨-, changed, -⟩ | ⟨-, t, changed, -⟩ := Store.releaseWorkerJobs_changed run
      · exact ⟨.idle, trivial, after ▸ changed.rows, .idle _⟩
      · exact ⟨_, changed.allowed, after ▸ changed.rows, .givesBack worker t⟩
  | forget worker =>
    obtain idle | ⟨c, -, -, -, goes⟩ := whenIn_cases .released worker s
      fun _ => ([], s.forget worker)
    · exact same (by rw [act, idle])
    · exact same (by rw [act, goes]; rfl)
  | shutdown => exact same rfl
  | request statement =>
    have after : (act s (.request statement)).2.store = (statement.run s.dispatcher s.store).2 :=
      rfl
    cases statement with
    | enqueue caseId evidenceId moduleName =>
      rw [Statement.run, Store.run_map] at after
      obtain ⟨ch, changed, ⟨rfl, -⟩ | ⟨row, job, rfl, -⟩⟩ := Store.enqueue_changed rfl
      · exact ⟨.idle, trivial, after ▸ changed.rows, .idle _⟩
      · exact ⟨_, changed.allowed, after ▸ changed.rows, .queues ..⟩
    | ack report =>
      rw [Statement.run, Store.run_map] at after
      obtain ⟨ch, changed, ⟨rfl, -⟩ | ⟨kept, t, rfl, -⟩⟩ := Store.ack_changed rfl
      · exact ⟨.idle, trivial, after ▸ changed.rows, .idle _⟩
      · exact ⟨_, changed.allowed, after ▸ changed.rows, .reports report kept t⟩
    | saveCase c => exact same (congrArg _ (Store.saveCase_aside c s.store).jobs)
    | saveEvidence e => exact same (congrArg _ (Store.saveEvidence_aside e s.store).jobs)
    | saveHook h => exact same (congrArg _ (Store.saveHook_aside h s.store).jobs)
    | deleteHook id => exact same (congrArg _ (Store.deleteHook_aside id s.store).jobs)
  | reach table lost => cases table <;> exact same rfl

/-- **A job that runs under a worker goes on to run,** unless a report on it arrives, a task fails
it for want of a record, or the worker's task gives it back. -/
theorem RunsUnder.act (sound : Sound s) (h : RunsUnder s.store.jobs.rows worker id) (a : Action) :
    RunsUnder (act s a).2.store.jobs.rows worker id ∨
      (∃ report, a = .request (.ack report) ∧ report.id = id) ∨
      (∃ other missing written, a = .proceed other written ∧
        s.phase? other = some (.failing id missing)) ∨
      (moment s a).GivesBack worker id := by
  obtain ⟨r, hr, rfl, runs, rfl⟩ := h
  obtain ⟨ch, allowed, rows, makes⟩ := act_makes sound.keyed a
  have member : ch.onRow r ∈ (Dispatch.act s a).2.store.jobs.rows :=
    rows ▸ JobChange.onRow_mem_apply hr
  have way := JobChange.onRow_rewrites ch r
  generalize after : ch.onRow r = r' at member way
  cases way with
  | stays => exact .inl ⟨r, member, rfl, runs, rfl⟩
  | claimed waits => rw [runs] at waits; cases waits
  | finished _ status error t =>
    generalize made : r.id = id at makes
    cases makes with
    | reports report kept t => exact .inr (.inl ⟨report, rfl, rfl⟩)
    | fails written kept t due => exact .inr (.inr (.inl ⟨_, _, written, rfl, due⟩))
  | released _ t =>
    have e := act_effect sound.keyed a
    have busy : r.status ≠ .scheduled := by rw [runs]; exact nofun
    obtain holds | given := e.holds sound ⟨r, hr, rfl, rfl, busy⟩
    · exact absurd rfl (holds.not_scheduled (sound.effect e).keyed member rfl)
    · exact .inr (.inr (.inr given))
  | recovered _ t => cases makes

/-- A job that is over stays as it is. -/
theorem over_act (sound : Sound s) {r : JobRow} (hr : r ∈ s.store.jobs.rows)
    (ended : r.status.isTerminal = true) (a : Action) : r ∈ (act s a).2.store.jobs.rows := by
  obtain ⟨ch, allowed, rows, -⟩ := act_makes sound.keyed a
  rw [rows, ← JobChange.onRow_of_isTerminal ch ended]
  exact JobChange.onRow_mem_apply hr

/-- **What a task has in hand** it had before, or it has just claimed it. -/
theorem hand_act (sound : Sound s) (after : (act s a).2.phase? worker = some p)
    (hand : p.inHand? = some id) :
    (∃ p₀, s.phase? worker = some p₀ ∧ p₀.inHand? = some id) ∨ (moment s a).Claims worker id := by
  have e := act_effect sound.keyed a
  have sound' := sound.effect e
  obtain ⟨c, found, rfl⟩ := Option.map_eq_some_iff.1 after
  obtain ⟨hc, rfl⟩ := mem_of_connection? found
  obtain ⟨c₀, hc₀, token, old, -⟩ | ⟨c₀, -, -, -, -, ⟨r, hr, rfl, waits⟩, holds⟩ := e.hand hc hand
  · exact .inl ⟨c₀.phase, token ▸ sound.phase?_eq hc₀, old⟩
  · refine .inr ⟨⟨r, hr, rfl, waits⟩, ?_⟩
    obtain ⟨r', hr', same, own, busy⟩ := holds
    obtain ⟨ch, allowed, rows, -⟩ := act_makes sound.keyed a
    have member : ch.onRow r ∈ (act s a).2.store.jobs.rows :=
      rows ▸ JobChange.onRow_mem_apply hr
    obtain rfl := sound'.keyed.eq_of_id hr' member (same.trans (JobChange.onRow_id ch r).symm)
    refine ⟨_, member, same, ?_, own⟩
    obtain still | moves := JobChange.onRow_moves allowed r
    · exact absurd (still.trans waits) busy
    · rw [waits] at moves
      generalize (ch.onRow r).status = status at moves ⊢
      cases moves
      rfl

/-! ## The end of a task -/

/-- How many turns a task is away from its end, at most. -/
def distance : ConnectionPhase → ℕ
  | .released => 0
  | .leaving => 1
  | .serving => 2
  | .writing _ => 2
  | .failing _ _ => 3
  | .describing _ (some _) => 4
  | .describing _ none => 5

/-- A task is five turns from its end at most. -/
theorem distance_le (p : ConnectionPhase) : distance p ≤ 5 := by
  cases p with
  | describing job case? => cases case? <;> simp [distance]
  | _ => simp [distance]

/-- The next turn of a task whose worker is gone. -/
def exit (worker : WorkerToken) : ConnectionPhase → Action
  | .serving => .leave worker
  | .leaving => .release worker
  | .released => .forget worker
  | _ => .proceed worker false

/-- A look-up brings a task no further from its end than what it finds. -/
theorem distance_afterLookUp {α : Type} {found : α → ConnectionPhase} {n : ℕ}
    (within : ∀ x, distance (found x) ≤ n) (far : 3 ≤ n) (id : JobId) (answer : Except Error α) :
    distance (Server.afterLookUp id found answer) ≤ n := by
  cases answer with
  | ok x => exact within x
  | error e =>
    cases e with
    | notFound missing => exact far
    | _ => exact Nat.le_trans (by decide : 1 ≤ 3) far

/-- **A task whose worker is gone comes nearer to its end** by each turn of its own. -/
theorem exit_act (h : s.phase? worker = some p) (there : p ≠ .released) :
    ∃ p', (act s (exit worker p)).2.phase? worker = some p' ∧ distance p' < distance p := by
  have phase : (s.connection? worker).map Connection.phase = some p := h
  cases p with
  | released => exact absurd rfl there
  | serving =>
    rw [exit, act, whenIn_of_phase? h]
    exact ⟨.leaving, phase?_turn_self h _, Nat.lt_succ_self 1⟩
  | leaving =>
    rw [exit, act, whenIn_of_phase? h]
    refine ⟨.released, ?_, Nat.lt_succ_self 0⟩
    rw [phase?_release, h]
    rfl
  | writing d =>
    refine ⟨.leaving, ?_, Nat.lt_succ_self 1⟩
    change (s.proceed worker false).2.phase? worker = _
    unfold Server.proceed
    rw [phase]
    exact phase?_turn_self h _
  | failing id missing =>
    change ∃ p', (s.proceed worker false).2.phase? worker = _ ∧ _
    unfold Server.proceed
    rw [phase]
    refine ⟨_, phase?_await_self h _ _, ?_⟩
    generalize (Store.ack id .failed _ s.store).1 = answer
    cases answer with
    | ok taken => exact Nat.lt_succ_self 2
    | error e => exact Nat.lt_of_lt_of_le (Nat.lt_succ_self 1) (Nat.le_succ 2)
  | describing job case? =>
    change ∃ p', (s.proceed worker false).2.phase? worker = _ ∧ _
    unfold Server.proceed
    rw [phase]
    cases case? with
    | none =>
      refine ⟨_, phase?_await_self h _ _, Nat.lt_succ_of_le ?_⟩
      exact distance_afterLookUp (fun _ => Nat.le_refl 4) (Nat.le_succ 3) _ _
    | some c =>
      refine ⟨_, phase?_await_self h _ _, Nat.lt_succ_of_le ?_⟩
      exact distance_afterLookUp (fun _ => Nat.le_succ 2) (Nat.le_refl 3) _ _

end Dispatch
end Casework
