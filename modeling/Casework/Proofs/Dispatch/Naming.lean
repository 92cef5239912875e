/-
# Only allow-listed module names get in

Module names come in from six sides:

| side | where the name is looked at |
| --- | --- |
| a module is registered | `Registry.register` |
| a job is queued | `Store.enqueue` |
| an operator pushes a job | `Dispatcher.pushJob`, and again when it is queued |
| a hook fires | by the registry, and when its job is queued |
| a worker connects | `Server.declaredModules`, on the pieces of its list |
| a job is claimed | `Store.claimNext` |

So the rows of the job table bear allow-listed names whatever the requests are, for all of them
queue by `enqueue` and nothing renames a job (`KeepsNames`, one lemma for each operation); what
servers know and what their workers declared has been looked at when it came in (`Server.Named`).
One call keeps both (`World.Named.call`), with any arguments and between any two statements of the
others, and so every run does (`only_allowed_names_get_in`).
-/

import Casework.Proofs.Dispatch.Declaration
import Casework.Proofs.Dispatch.Readiness
import Casework.Proofs.Module.Name

namespace Casework

open Text

/-- All of the texts are module names. -/
def AllNamed (names : List String) : Prop := ∀ name ∈ names, isModuleName name = true

namespace Store

/-! ## The job table -/

/-- The job table has its key, and the jobs are of modules with well-formed names. -/
structure Named (s : Store) : Prop where
  keyed : Keyed s.jobs.rows
  names : ∀ r ∈ s.jobs.rows, isModuleName r.moduleName = true

/-- The operation leaves only jobs of modules with well-formed names. -/
def KeepsNames {α : Type} (op : StoreM α) : Prop := ∀ s : Store, s.Named → (op s).2.Named

variable {α β : Type} {s s' : Store}

/-- Names stay well-formed when the rows that are added have well-formed ones. -/
theorem Named.changed {ch : JobChange} (h : s.Named) (changed : s.Changed ch s')
    (added : ∀ r ∈ ch.added, isModuleName r.moduleName = true) : s'.Named := by
  refine ⟨changed.keyed h.keyed, fun r member => ?_⟩
  rw [changed.rows] at member
  obtain ⟨old, there, rfl⟩ | new := JobChange.mem_apply.1 member
  · rw [JobChange.onRow_moduleName]
    exact h.names old there
  · exact added r new

/-- Moves of jobs rename nothing. -/
theorem Named.moved (h : s.Named) (moved : s.Moved s') : s'.Named := by
  obtain ⟨ch, changed, nothing⟩ := moved
  exact h.changed changed (by simp [nothing])

/-- Only the jobs matter for their names. -/
theorem Named.of_jobs (h : s.Named) (jobs : s'.jobs.rows = s.jobs.rows) : s'.Named :=
  ⟨jobs ▸ h.keyed, jobs ▸ h.names⟩

/-- What changes no store keeps the names. -/
theorem keepsNames_of_unchanged {op : StoreM α} (unchanged : ∀ s, (op s).2 = s) : KeepsNames op :=
  fun s h => (unchanged s).symm ▸ h

/-- What leaves the jobs aside keeps the names. -/
theorem keepsNames_of_aside {op : StoreM α} (aside : ∀ s : Store, s.Aside (op s).2) :
    KeepsNames op :=
  fun s h => h.of_jobs (congrArg Table.rows (aside s).jobs)

/-- One operation after the other. -/
theorem KeepsNames.bind {op : StoreM α} {next : α → StoreM β} (first : KeepsNames op)
    (rest : ∀ a, KeepsNames (next a)) : KeepsNames (op >>= next) := by
  intro s h
  have named := first s h
  rw [run_bind]
  rcases run : op s with ⟨e | a, s'⟩ <;> rw [run] at named
  · exact named
  · exact rest a s' named

/-- What is made of an answer does not matter for the names. -/
theorem KeepsNames.map {op : StoreM α} (h : KeepsNames op) (f : α → β) : KeepsNames (f <$> op) := by
  intro s named
  rw [run_map]
  exact h s named

/-- **A job is queued** under a well-formed name or not at all. -/
theorem keepsNames_enqueue (server : InstanceToken) (caseId evidenceId moduleName : String) :
    KeepsNames (enqueue server caseId evidenceId moduleName) := by
  intro s h
  cases named : checkModuleName moduleName with
  | error e =>
    have refused : enqueue server caseId evidenceId moduleName s = (.error e, s) := by
      simp [enqueue, named]
    rwa [refused]
  | ok u =>
    obtain ⟨e, supply, -, -, run⟩ | ⟨row, rfl, there, new, run⟩ :=
      enqueue_cases server caseId evidenceId moduleName s
    · rw [run]
      exact h.of_jobs rfl
    · rw [run]
      refine h.changed (changed_queue there new) fun r member => ?_
      obtain rfl := List.mem_singleton.1 member
      exact checkModuleName_eq_ok_iff.1 named

/-- A claim keeps the names. -/
theorem keepsNames_claimNext (server : InstanceToken) (worker : WorkerToken)
    (modules : List String) : KeepsNames (claimNext server worker modules) :=
  fun _ h => h.moved (moved_claimNext h.keyed server worker modules)

/-- A report keeps the names. -/
theorem keepsNames_ack (id : JobId) (status : JobStatus) (error : String) :
    KeepsNames (ack id status error) :=
  fun s h => h.moved (moved_ack id status error s)

/-- To give the jobs of a worker back keeps the names. -/
theorem keepsNames_releaseWorkerJobs (worker : WorkerToken) :
    KeepsNames (releaseWorkerJobs worker) :=
  fun s h => h.moved (moved_releaseWorkerJobs worker s)

/-- To recover jobs keeps the names. -/
theorem keepsNames_releaseStaleJobs (server : InstanceToken) :
    KeepsNames (releaseStaleJobs server) :=
  fun s h => h.moved (moved_releaseStaleJobs server s)

/-- Names do not depend on which tables are in reach. -/
theorem Named.reach (h : s.Named) (table : TableName) (lost : Bool) :
    (s.reach table lost).Named := by
  cases table <;> exact h.of_jobs rfl

/-! ## Claims -/

/-- **A claim whose list has another text in it** fails, and changes nothing. -/
theorem claimNext_of_not_named {modules : List String} (other : ¬AllNamed modules)
    (server : InstanceToken) (worker : WorkerToken) (s : Store) :
    ∃ text, claimNext server worker modules s = (.error (.validation text), s) := by
  obtain ⟨-, name, -, -, -, -, refused⟩ := checkModuleNames_of_not other
  exact ⟨_, by simp [claimNext, refused]; rfl⟩

/-- **A claim whose list has module names only** does not fail for its list. -/
theorem claimNext_of_named {modules : List String} (named : AllNamed modules)
    (server : InstanceToken) (worker : WorkerToken) (s : Store) (text : String) :
    (claimNext server worker modules s).1 ≠ .error (.validation text) := by
  have checked : checkModuleNames modules = .ok () := checkModuleNames_eq_ok_iff.2 named
  by_cases empty : modules = []
  · simp [claimNext, checkModuleNames, empty]
  by_cases lost : s.jobs.lost = true
  · simp [claimNext, checked, empty, lost, lostTable]
  rcases first : changeFirst (JobRow.isClaimable modules)
    (JobRow.claimed worker server s.supply.now.1) s.jobs.rows with _ | ⟨r, rows⟩
  · simp [claimNext, checked, empty, lost, first]
  · -- a row that cannot be read is the store's fault
    cases read : r.job? <;> simp [claimNext, checked, empty, lost, first, JobRow.read, read,
      Except.map]

end Store

/-! ## Requests to the dispatcher -/

open Store

/-- Hooks queue only modules with well-formed names. -/
theorem Hook.keepsNames_onEvidenceAdded (server : InstanceToken) (registry : Registry)
    (rules : RuleEngine) (e : Evidence) :
    KeepsNames (onEvidenceAdded server registry rules e) := by
  have queue (hooks : List Hook) : KeepsNames (enqueueAll server e hooks) := by
    induction hooks with
    | nil => exact keepsNames_of_unchanged fun _ => rfl
    | cons hook hooks ih =>
      refine (keepsNames_enqueue server e.caseId e.id hook.module).bind fun job => ?_
      exact ih.bind fun jobs => keepsNames_of_unchanged fun _ => rfl
  exact (keepsNames_of_unchanged listHooks_unchanged).bind fun hooks => queue _

/-- Only a well-formed name can be queued by hand. -/
theorem Dispatcher.keepsNames_pushJob (d : Dispatcher) (wish : PushJobRequest) :
    KeepsNames (d.pushJob wish) := by
  refine (keepsNames_of_unchanged fun s => by rw [run_lift]).bind fun _ => ?_
  split
  · exact keepsNames_of_unchanged fun _ => rfl
  · exact (keepsNames_of_unchanged (getEvidence_unchanged _ _)).bind fun _ =>
      keepsNames_enqueue d.token wish.caseId wish.evidenceId wish.moduleName

namespace Dispatch

/-- Every statement keeps the names. -/
theorem keepsNames_statement (d : Dispatcher) (statement : Statement) :
    KeepsNames (statement.run d) := by
  cases statement with
  | enqueue caseId evidenceId moduleName =>
    exact (keepsNames_enqueue d.token caseId evidenceId moduleName).map _
  | ack report => exact (keepsNames_ack report.id report.status report.error).map _
  | saveCase c => exact keepsNames_of_aside (saveCase_aside c)
  | saveEvidence e => exact keepsNames_of_aside (saveEvidence_aside e)
  | saveHook h => exact keepsNames_of_aside (saveHook_aside h)
  | deleteHook id => exact keepsNames_of_aside (deleteHook_aside id)

/-- Every step of an errand keeps the names. -/
theorem keepsNames_next (t : Errand) : KeepsNames t.next := by
  have done : KeepsNames (pure none : StoreM (Option Errand)) :=
    keepsNames_of_unchanged fun _ => rfl
  cases t with
  | push d wish =>
    exact (keepsNames_enqueue d.token wish.caseId wish.evidenceId wish.moduleName).bind fun _ =>
      done
  | save d e =>
    exact (keepsNames_of_aside (saveEvidence_aside e)).bind fun _ =>
      keepsNames_of_unchanged fun _ => rfl
  | look d e =>
    exact (keepsNames_of_unchanged listHooks_unchanged).bind fun _ =>
      keepsNames_of_unchanged fun _ => rfl
  | queue d e hooks =>
    cases hooks with
    | nil => exact done
    | cons hook hooks =>
      exact (keepsNames_enqueue d.token e.caseId e.id hook.module).bind fun _ =>
        keepsNames_of_unchanged fun _ => rfl

end Dispatch

/-! ## One server -/

/-- What a server knows are modules with well-formed names: those of its registry, and those that
its workers declared. -/
structure Dispatcher.Named (d : Dispatcher) : Prop where
  registry : d.registry.WellNamed
  sessions : ∀ session ∈ d.sessions.entries, AllNamed session.supportedModules
  connections : ∀ c ∈ d.connections, AllNamed c.modules

/-- Names are well-formed in the job table and in the server. -/
structure Server.Named (s : Server) : Prop where
  store : s.store.Named
  dispatcher : s.dispatcher.Named

namespace Server

variable {s : Server} {α : Type}

/-- What keeps the names of a store keeps those of its server. -/
theorem Named.onStore (h : s.Named) {op : StoreM α} (keeps : KeepsNames op) :
    (s.onStore op).2.Named :=
  ⟨keeps s.store h.store, h.dispatcher⟩

/-- A change of a task that leaves its modules alone keeps the names. -/
theorem Named.updateConnection (h : s.Named) (token : WorkerToken) {f : Connection → Connection}
    (keep : ∀ c, (f c).modules = c.modules) : (s.updateConnection token f).Named := by
  refine ⟨h.store, h.dispatcher.registry, h.dispatcher.sessions, fun c' member => ?_⟩
  obtain ⟨c, there, rfl⟩ := List.mem_map.1 member
  split
  · rw [keep]
    exact h.dispatcher.connections c there
  · exact h.dispatcher.connections c there

/-- A task that turns keeps its modules. -/
theorem Named.turn (h : s.Named) (token : WorkerToken) (phase : ConnectionPhase) :
    (s.turn token phase).Named :=
  h.updateConnection token fun _ => rfl

/-- A task that waits for an answer keeps the names. -/
theorem Named.await (h : s.Named) (token : WorkerToken) {op : StoreM α} (keeps : KeepsNames op)
    (next : Except Error α → ConnectionPhase) : (s.await token op next).2.Named :=
  (h.onStore keeps).turn token (next (op s.store).1)

/-- A task that gives its jobs back keeps the names. -/
theorem Named.release (h : s.Named) (token : WorkerToken) : (s.release token).2.Named :=
  (h.onStore (keepsNames_releaseWorkerJobs token)).turn token .released

/-- To forget a worker keeps the names. -/
theorem Named.forget (h : s.Named) (token : WorkerToken) : (s.forget token).Named :=
  ⟨h.store, h.dispatcher.registry,
    fun session member => h.dispatcher.sessions session (Sessions.mem_without.1 member).1,
    fun c member => h.dispatcher.connections c (List.mem_filter.1 member).1⟩

/-- A stream that closes keeps the names. -/
theorem Named.close (h : s.Named) (token : WorkerToken) : (s.close token).Named :=
  ((h.turn token .leaving).release token).forget token

/-- A task that finishes keeps the names. -/
theorem Named.finish (h : s.Named) (token : WorkerToken) : (s.finish token).Named := by
  unfold Server.finish
  split
  · split
    · exact (h.release token).forget token
    · exact h
  · exact h

/-- A task that goes on keeps the names. -/
theorem Named.proceed (h : s.Named) (token : WorkerToken) (written : Bool) :
    (s.proceed token written).2.Named := by
  unfold Server.proceed
  split
  next job _ => exact h.await token (keepsNames_of_unchanged (getCase_unchanged job.caseId)) _
  next job _ _ =>
    have looks := keepsNames_of_unchanged (getEvidence_unchanged job.caseId job.evidenceId)
    exact h.await token looks _
  next id missing _ => exact h.await token (keepsNames_ack id .failed _) _
  next =>
    cases written with
    | true => exact h.turn token .serving
    | false => exact h.turn token .leaving
  next => exact h

/-- A task that asks for a job keeps the names. -/
theorem Named.firePoll (h : s.Named) (now : ℕ) (c : Connection) : (s.firePoll now c).2.Named := by
  have advanced := h.updateConnection c.token
    (f := fun c => { c with poll := c.poll.advance now }) fun _ => rfl
  exact advanced.await c.token (keepsNames_claimNext s.dispatcher.token c.token c.modules) _

/-- A sign of life keeps the names. -/
theorem Named.fireKeepAlive (h : s.Named) (now : ℕ) (c : Connection) :
    (s.fireKeepAlive now c).Named := by
  have advanced := h.updateConnection c.token
    (f := fun c => { c with keepAlive := c.keepAlive.advance now }) fun _ => rfl
  exact advanced.turn c.token _

/-- A task that works off what is due keeps the names. -/
theorem Named.workOff (h : s.Named) (token : WorkerToken) : (s.workOff token).2.Named :=
  (((h.proceed token true).proceed token true).proceed token true).finish token

/-- A beat of a timer keeps the names. -/
theorem Named.beat (h : s.Named) (now : ℕ) (c : Connection) : (s.beat now c).2.Named := by
  have alive : (s.beatKeepAlive now c).2.Named := by
    unfold Server.beatKeepAlive
    split
    · exact (h.fireKeepAlive now c).workOff c.token
    · exact h
  change ((s.beatKeepAlive now c).2.beatPoll now c).2.Named
  unfold Server.beatPoll
  split
  · exact (alive.firePoll now c).workOff c.token
  · exact alive

/-- A stream that opens keeps the names. -/
theorem Named.openStream (h : s.Named) (now : ℕ) (token : WorkerToken) :
    (s.openStream now token).2.Named := by
  unfold Server.openStream
  split
  · exact h
  · split
    · exact h.close token
    · exact h.beat now _

/-! ## Workers that connect -/

/-- Modules that are accepted of a worker have well-formed names. -/
theorem allNamed_of_declaredModules {params : ConnectParams} {modules : List String}
    (declared : declaredModules params = .ok modules) : AllNamed modules := by
  unfold declaredModules at declared
  split at declared
  · cases declared
  · cases checked : checkModuleNames params.moduleNames with
    | error e =>
      rw [checked] at declared
      cases declared
    | ok u =>
      rw [checked] at declared
      obtain rfl := Except.ok.inj declared
      exact checkModuleNames_eq_ok_iff.1 checked

/-- A worker is put on record under the names that it declared. -/
theorem Named.enroll (h : s.Named) (now : ℕ) {modules : List String} (named : AllNamed modules)
    (workers : UInt64) (remote : String) : (s.enroll now modules workers remote).2.Named := by
  obtain ⟨⟨session, sessions, -, supported⟩, task?, connections, started⟩ :=
    s.enrolled_enroll now modules workers remote
  refine ⟨h.store.of_jobs rfl, h.dispatcher.registry, fun session' member => ?_, fun c member => ?_⟩
  · rw [sessions] at member
    obtain ⟨old, -⟩ | rfl := Sessions.mem_insert.1 member
    · exact h.dispatcher.sessions session' old
    · rwa [supported]
  · rw [connections] at member
    obtain old | new := List.mem_append.1 member
    · exact h.dispatcher.connections c old
    · rw [(started c (Option.mem_toList.1 new)).2]
      exact named

/-- **A worker that connects** keeps the names, whatever it declares. -/
theorem Named.connect (h : s.Named) (now : ℕ) (params : ConnectParams) (remote : String) :
    (s.connect now params remote).2.2.Named := by
  unfold Server.connect
  cases declared : declaredModules params with
  | error e => exact h
  | ok modules =>
    exact (h.enroll now (allNamed_of_declaredModules declared) params.workers remote).openStream
      now _

/-- **A worker that declares another text** is refused, and nothing is changed. -/
theorem connect_of_not_named {params : ConnectParams} (other : ¬AllNamed params.moduleNames)
    (s : Server) (now : ℕ) (remote : String) :
    ∃ text, s.connect now params remote = (.error (.validation text), [], s) := by
  obtain ⟨front, name, back, names, -, -, refused⟩ := checkModuleNames_of_not other
  have declared : declaredModules params =
      .error (.validation ("invalid module name: " ++ quote name)) := by
    unfold declaredModules
    split
    · next nothing => simp [nothing] at names
    · rw [refused]
      rfl
  exact ⟨_, by rw [Server.connect, declared]⟩

/-- Each turn of something that goes on at a server. -/
theorem Named.act (h : s.Named) (a : Dispatch.Action) : (Dispatch.act s a).2.Named := by
  have whenIn (phase : ConnectionPhase) (worker : WorkerToken)
      {go : Connection → List StreamEvent × Server} (goes : ∀ c, (go c).2.Named) :
      (Dispatch.whenIn phase worker s go).2.Named := by
    obtain idle | ⟨c, -, -, -, same⟩ := Dispatch.whenIn_cases phase worker s go
    · rwa [idle]
    · rw [same]
      exact goes c
  cases a with
  | connect now params remote =>
    rw [Dispatch.act]
    cases declared : declaredModules params with
    | error e => exact h
    | ok modules => exact h.enroll now (allNamed_of_declaredModules declared) params.workers remote
  | poll now worker => exact whenIn _ _ fun c => h.firePoll now c
  | keepAlive now worker => exact whenIn _ _ fun c => h.fireKeepAlive now c
  | proceed worker written => exact h.proceed worker written
  | leave worker => exact whenIn _ _ fun _ => h.turn worker .leaving
  | release worker => exact whenIn _ _ fun _ => h.release worker
  | forget worker => exact whenIn _ _ fun _ => h.forget worker
  | shutdown =>
    obtain ⟨registry, sessions, connections⟩ := h.dispatcher
    exact ⟨h.store, registry, sessions, connections⟩
  | request statement => exact h.onStore (Dispatch.keepsNames_statement s.dispatcher statement)
  | reach table lost => exact ⟨h.store.reach table lost, h.dispatcher⟩

end Server

/-! ## All servers -/

namespace Dispatch

/-- One call, or one turn of anything else. -/
inductive Call where
  /-- A server learns of a module. -/
  | register (i : ℕ) (m : Module)
  /-- A job is queued at a server. -/
  | enqueue (i : ℕ) (caseId evidenceId moduleName : String)
  /-- An operator pushes a job. -/
  | push (i : ℕ) (wish : PushJobRequest)
  /-- Hooks fire for an item of evidence. -/
  | fire (i : ℕ) (e : Evidence)
  /-- A worker opens a stream. -/
  | connect (i : ℕ) (now : ℕ) (params : ConnectParams) (remote : String)
  /-- Someone claims a job for a worker. -/
  | claim (server : InstanceToken) (worker : WorkerToken) (modules : List String)
  /-- Anything else, one statement at a time; servers that start know no modules. -/
  | turn (t : Turn)

/-- A server starts without modules. -/
def Turn.unfilled : Turn → Turn
  | .start settings => .start { settings with registry := {} }
  | .attach settings => .attach { settings with registry := {} }
  | t => t

/-- The server with one more module, if the registry takes it. -/
def registered (m : Module) (s : Server) : Server :=
  match s.dispatcher.registry.register m with
  | .ok registry => { s with dispatcher := { s.dispatcher with registry := registry } }
  | .error _ => s

namespace World

/-- What a server does. -/
def onMember (w : World) (i : ℕ) (f : Server → Server) : World :=
  match w.members[i]? with
  | some d =>
    let s := f ⟨w.store, d⟩
    { w with store := s.store, members := w.members.set i s.dispatcher }
  | none => w

/-- What a call does, whatever its answer is. -/
def call (w : World) : Call → World
  | .register i m => w.onMember i (registered m)
  | .enqueue i caseId evidenceId moduleName =>
    w.onMember i fun s =>
      (s.onStore (Store.enqueue s.dispatcher.token caseId evidenceId moduleName)).2
  | .push i wish => w.onMember i fun s => (s.onStore (s.dispatcher.pushJob wish)).2
  | .fire i e =>
    w.onMember i fun s => (s.onStore (Hook.onEvidenceAdded s.dispatcher.token s.dispatcher.registry
      s.dispatcher.rules e)).2
  | .connect i now params remote => w.onMember i fun s => (s.connect now params remote).2.2
  | .claim server worker modules =>
    { w with store := (Store.claimNext server worker modules w.store).2 }
  | .turn t => w.turn t.unfilled

/-- The world after some calls. -/
def calls (w : World) (calls : List Call) : World := calls.foldl call w

/-- Names are well-formed in the job table and in all servers. -/
structure Named (w : World) : Prop where
  store : w.store.Named
  members : ∀ d ∈ w.members, d.Named

variable {w : World}

/-- The empty world has no names. -/
theorem named_empty (supply : Supply) : (empty supply).Named :=
  ⟨⟨List.nodup_nil, fun _ member => absurd member List.not_mem_nil⟩,
    fun _ member => absurd member List.not_mem_nil⟩

/-- What keeps the names of every server keeps those of the world. -/
theorem Named.onMember (h : w.Named) (i : ℕ) {f : Server → Server}
    (keeps : ∀ s : Server, s.Named → (f s).Named) : (w.onMember i f).Named := by
  unfold World.onMember
  cases found : w.members[i]? with
  | none => exact h
  | some d =>
    have after := keeps ⟨w.store, d⟩ ⟨h.store, h.members d (List.mem_of_getElem? found)⟩
    refine ⟨after.store, fun d' member => ?_⟩
    obtain old | rfl := List.mem_or_eq_of_mem_set member
    · exact h.members d' old
    · exact after.dispatcher

/-- A server that joins brings only well-formed names. -/
theorem Named.join (h : w.Named) {s : Server} (named : s.Named) : (w.join s).Named := by
  refine ⟨named.store, fun d member => ?_⟩
  obtain old | new := List.mem_append.1 member
  · exact h.members d old
  · exact List.mem_singleton.1 new ▸ named.dispatcher

/-- A server that knows no modules starts. -/
theorem Named.fresh (h : w.Named) (settings : Dispatcher) :
    (named w.store { settings with registry := {} }).Named :=
  have nothing {α : Type} {P : α → Prop} : ∀ a ∈ ([] : List α), P a :=
    fun _ member => absurd member List.not_mem_nil
  ⟨h.store.of_jobs rfl, nothing, nothing, nothing⟩

/-- **One turn of anything** keeps the names well-formed. -/
theorem Named.turn (h : w.Named) (t : Turn) : (w.turn t.unfilled).Named := by
  have goes := turn_goes w t.unfilled
  generalize shape : t.unfilled = t' at goes
  generalize w.turn t' = w' at goes ⊢
  cases goes with
  | aside t used servers requests =>
    exact ⟨h.store.of_jobs rfl, fun d member => h.members d (servers d member)⟩
  | started settings =>
    obtain ⟨own, rfl⟩ : ∃ own : Dispatcher, settings = { own with registry := {} } := by
      cases t with
      | start own => exact ⟨own, (Turn.start.inj shape).symm⟩
      | _ => cases shape
    exact h.join ((h.fresh own).onStore (Store.keepsNames_releaseStaleJobs _))
  | attached settings =>
    obtain ⟨own, rfl⟩ : ∃ own : Dispatcher, settings = { own with registry := {} } := by
      cases t with
      | attach own => exact ⟨own, (Turn.attach.inj shape).symm⟩
      | _ => cases shape
    exact h.join (h.fresh own)
  | @acted i a d s members member bare after servers =>
    have acted := Server.Named.act (s := ⟨w.store, d⟩) ⟨h.store, h.members d member⟩ a
    rw [after] at acted
    refine ⟨acted.store, fun d' member' => ?_⟩
    obtain old | rfl := servers d' member'
    · exact h.members d' old
    · exact acted.dispatcher
  | begun i member started => exact ⟨h.store, h.members⟩
  | @wentOn n t answer store errands member next requests =>
    have kept := keepsNames_next t w.store h.store
    rw [next] at kept
    exact ⟨kept, h.members⟩
  | reached table lost => exact ⟨h.store.reach table lost, h.members⟩

/-- **One call** keeps the names well-formed, whatever its arguments are. -/
theorem Named.call (h : w.Named) (c : Call) : (w.call c).Named := by
  cases c with
  | register i m =>
    refine h.onMember i fun s named => ?_
    unfold registered
    cases answer : s.dispatcher.registry.register m with
    | error e => exact named
    | ok registry =>
      exact ⟨named.store, Registry.wellNamed_register named.dispatcher.registry answer,
        named.dispatcher.sessions, named.dispatcher.connections⟩
  | enqueue i caseId evidenceId moduleName =>
    exact h.onMember i fun s named =>
      named.onStore (Store.keepsNames_enqueue s.dispatcher.token caseId evidenceId moduleName)
  | push i wish =>
    exact h.onMember i fun s named => named.onStore (s.dispatcher.keepsNames_pushJob wish)
  | fire i e =>
    exact h.onMember i fun s named => named.onStore (Hook.keepsNames_onEvidenceAdded
      s.dispatcher.token s.dispatcher.registry s.dispatcher.rules e)
  | connect i now params remote =>
    exact h.onMember i fun s named => named.connect now params remote
  | claim server worker modules =>
    exact ⟨Store.keepsNames_claimNext server worker modules w.store h.store, h.members⟩
  | turn t => exact h.turn t

/-- **Every run keeps the names well-formed.** -/
theorem Named.calls (h : w.Named) (calls : List Call) : (w.calls calls).Named := by
  induction calls generalizing w with
  | nil => exact h
  | cons c calls ih => exact ih (h.call c)

end World

/-- **Only allow-listed module names get in.**  The check takes them and refuses any other text.
Whatever calls were made, with whatever arguments, they are the names of all jobs, of all modules in
the registries, and of all that the sessions support.  A claim or a worker whose list has another
text in it is refused and changes nothing; and what an open stream claims under is never refused. -/
theorem only_allowed_names_get_in :
    (∀ name, (checkModuleName name = .ok () ↔ AllowListed name) ∧
      (¬AllowListed name → checkModuleName name =
        .error (.validation ("invalid module name: " ++ quote name)))) ∧
    (∀ supply calls,
      (∀ r ∈ ((World.empty supply).calls calls).store.jobs.rows, AllowListed r.moduleName) ∧
      ∀ d ∈ ((World.empty supply).calls calls).members,
        (∀ m ∈ d.registry.modules, AllowListed m.name) ∧
        (∀ session ∈ d.sessions.entries, ∀ name ∈ session.supportedModules, AllowListed name) ∧
        ∀ c ∈ d.connections, ∀ store text,
          (Store.claimNext d.token c.token c.modules store).1 ≠ .error (.validation text)) ∧
    (∀ server worker modules store, (∃ name ∈ modules, ¬AllowListed name) →
      ∃ text, Store.claimNext server worker modules store = (.error (.validation text), store)) ∧
    ∀ (s : Server) now params remote, (∃ name ∈ params.moduleNames, ¬AllowListed name) →
      ∃ text, s.connect now params remote = (.error (.validation text), [], s) := by
  simp only [← isModuleName_iff_allowListed]
  have other {names : List String} (found : ∃ name ∈ names, ¬isModuleName name = true) :
      ¬AllNamed names := by
    obtain ⟨name, member, ill⟩ := found
    exact fun all => ill (all name member)
  refine ⟨fun name => ⟨checkModuleName_eq_ok_iff, checkModuleName_of_not⟩, fun supply calls => ?_,
    fun server worker modules store found =>
      Store.claimNext_of_not_named (other found) server worker store,
    fun s now params remote found => Server.connect_of_not_named (other found) s now remote⟩
  obtain ⟨store, members⟩ := (World.named_empty supply).calls calls
  refine ⟨store.names, fun d member => ?_⟩
  obtain ⟨registry, sessions, connections⟩ := members d member
  refine ⟨fun m known => checkModuleName_eq_ok_iff.1 (registry m known), sessions, ?_⟩
  exact fun c there => Store.claimNext_of_named (connections c there) d.token c.token

end Dispatch
end Casework
