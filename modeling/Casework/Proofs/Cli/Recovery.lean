/-
# Who takes jobs back

A server that starts puts every job back into the queue that runs under another server.  Its token
is a new one, so these are all that run (`start_recovery`), and a second start finds none
(`Recovery.again`).

An operator's command works on a store where servers may be at work, and takes nothing back: each
of its statements leaves the job table alone, or queues a job at the end of it (`Keeps`).  So the
rows that were there are the first ones afterwards, as they were, whatever becomes of the command
(`run_keeps`).  `recovered_by_starts_only` puts the two together.
-/

import Casework.Proofs.Cli.Failures

namespace Casework

open Store

/-! ## A start -/

/-- What becomes of a server and its store when it starts, and the count that it gives: the jobs
that ran wait again, for it, and nothing else is touched. -/
structure Recovery (s : Server) (reclaimed : Nat) (s' : Server) : Prop where
  counted : reclaimed = s.store.jobs.rows.countP fun r => r.status == .running
  idle : ∀ r ∈ s'.store.jobs.rows, r.status ≠ .running
  rows : ∃ t, s'.store.jobs.rows = s.store.jobs.rows.map fun r =>
    if r.status = .running then
      { r with status := .scheduled, workerToken := "", serverToken := s.dispatcher.token,
               updatedAt? := some t }
    else r
  there : s'.store.jobs.lost = false
  cases : s'.store.cases = s.store.cases
  evidences : s'.store.evidences = s.store.evidences
  hooks : s'.store.hooks = s.store.hooks
  dispatcher : s'.dispatcher = s.dispatcher

namespace Server

/-- A start as one change of the job table. -/
theorem start_eq (s : Server) (there : s.store.jobs.lost = false) :
    s.start = (.ok (s.store.jobs.rows.countP (JobRow.isStale s.dispatcher.token)),
      { s with store := { s.store with
          supply := s.store.supply.now.2
          jobs := ⟨changeAll (JobRow.isStale s.dispatcher.token)
            (JobRow.recovered s.dispatcher.token s.store.supply.now.1) s.store.jobs.rows,
            false⟩ } }) := by
  simp [start, onStore, Dispatcher.reclaimStaleJobs, releaseStaleJobs, there, Except.map]

/-- **A start takes every running job back,** if no row has the token that it starts with. -/
theorem start_recovery {s : Server} (there : s.store.jobs.lost = false)
    (fresh : ∀ r ∈ s.store.jobs.rows, r.serverToken ≠ s.dispatcher.token) :
    ∃ n s', s.start = (.ok n, s') ∧ Recovery s n s' := by
  have stale : ∀ r ∈ s.store.jobs.rows,
      r.isStale s.dispatcher.token = (r.status == .running) := by
    intro r hr
    simp [JobRow.isStale, fresh r hr]
  refine ⟨_, _, start_eq s there, ?_⟩
  exact {
    counted := List.countP_congr fun r hr => by rw [stale r hr]
    idle := by
      intro r hr
      obtain ⟨r, old, rfl⟩ := List.mem_map.1 hr
      rw [stale r old]
      split
      next => simp [JobRow.recovered]
      next ended => simpa using ended
    rows := ⟨s.store.supply.now.1, List.map_congr_left fun r hr => by
      simp [stale r hr, JobRow.recovered]⟩
    there := rfl
    cases := rfl
    evidences := rfl
    hooks := rfl
    dispatcher := rfl }

end Server

/-- Where no job runs there is nothing to take back, for no token. -/
theorem Recovery.again {s s' : Server} {n : Nat} (h : Recovery s n s') (d : Dispatcher) :
    ∃ store, Server.start ⟨s'.store, d⟩ = (.ok 0, ⟨store, d⟩) ∧ s'.store.SameTables store := by
  have stays : ∀ r ∈ s'.store.jobs.rows, r.isStale d.token = false := by
    intro r hr
    simp [JobRow.isStale, h.idle r hr]
  have kept (t : Timestamp) :
      changeAll (JobRow.isStale d.token) (JobRow.recovered d.token t) s'.store.jobs.rows =
        s'.store.jobs.rows := by
    refine (List.map_congr_left fun r hr => ?_).trans (List.map_id _)
    rw [stays r hr]
    rfl
  have count : s'.store.jobs.rows.countP (JobRow.isStale d.token) = 0 :=
    List.countP_eq_zero.2 fun r hr => by rw [stays r hr]; exact Bool.false_ne_true
  rw [Server.start_eq ⟨s'.store, d⟩ h.there, kept, count]
  exact ⟨_, rfl, by rw [← h.there], rfl, rfl, rfl⟩

/-! ## What operators leave alone -/

namespace Store

variable {α β : Type}

/-- The operation leaves every job that is there as it is; jobs may come in after them. -/
def Keeps (op : StoreM α) : Prop := ∀ s : Store, s.jobs.rows <+: (op s).2.jobs.rows

/-- What changes no store keeps the rows. -/
theorem keeps_of_unchanged {op : StoreM α} (h : ∀ s, (op s).2 = s) : Keeps op := fun s => by
  rw [h s]

/-- What leaves the jobs aside keeps their rows. -/
theorem keeps_of_aside {op : StoreM α} (h : ∀ s : Store, s.Aside (op s).2) : Keeps op := fun s => by
  rw [(h s).jobs]

theorem keeps_pure (a : α) : Keeps (pure a) := fun _ => List.prefix_rfl

theorem keeps_now : Keeps now := fun _ => List.prefix_rfl

theorem keeps_freshIdent : Keeps freshIdent := fun _ => List.prefix_rfl

theorem keeps_lift (x : Except Error α) : Keeps (liftM x) :=
  keeps_of_unchanged fun s => by rw [run_lift]

/-- One operation after another keeps the rows, if both do. -/
theorem Keeps.bind {op : StoreM α} {next : α → StoreM β} (first : Keeps op)
    (rest : ∀ a, Keeps (next a)) : Keeps (op >>= next) := by
  intro s
  have before := first s
  rw [run_bind]
  rcases run : op s with ⟨e | a, s'⟩ <;> rw [run] at before
  · exact before
  · exact before.trans (rest a s')

/-- What is made of an answer does not matter for the rows. -/
theorem Keeps.map {op : StoreM α} (h : Keeps op) (f : α → β) : Keeps (f <$> op) := by
  intro s
  rw [run_map]
  exact h s

/-- A job is put behind the rows that are there. -/
theorem keeps_enqueue (server : InstanceToken) (caseId evidenceId moduleName : String) :
    Keeps (enqueue server caseId evidenceId moduleName) := by
  intro s
  obtain ⟨e, supply, -, -, run⟩ | ⟨row, -, -, -, run⟩ :=
    enqueue_cases server caseId evidenceId moduleName s
  · rw [run]
  · rw [run]
    exact List.prefix_append _ _

end Store

namespace Hook

/-- The jobs of several hooks are put behind the rows that are there. -/
theorem keeps_enqueueAll (server : InstanceToken) (e : Evidence) (hooks : List Hook) :
    Keeps (enqueueAll server e hooks) := by
  induction hooks with
  | nil => exact keeps_pure []
  | cons h hooks ih =>
    exact (keeps_enqueue server e.caseId e.id h.module).bind fun job =>
      ih.bind fun jobs => keeps_pure (job :: jobs)

/-- Hooks that fire keep the rows. -/
theorem keeps_onEvidenceAdded (server : InstanceToken) (registry : Registry) (rules : RuleEngine)
    (e : Evidence) : Keeps (onEvidenceAdded server registry rules e) :=
  (keeps_of_unchanged listHooks_unchanged).bind fun _ => keeps_enqueueAll server e _

end Hook

namespace Dispatcher

/-- To queue a job by hand keeps the rows. -/
theorem keeps_pushJob (d : Dispatcher) (wish : PushJobRequest) : Keeps (d.pushJob wish) := by
  refine (keeps_lift _).bind fun _ => ?_
  split
  · exact keeps_of_unchanged fun s => rfl
  · exact (keeps_of_unchanged (getEvidence_unchanged wish.caseId wish.evidenceId)).bind fun _ =>
      keeps_enqueue d.token wish.caseId wish.evidenceId wish.moduleName

/-- To register an item keeps the rows. -/
theorem keeps_registerEvidence (d : Dispatcher) (e : Evidence) : Keeps (d.registerEvidence e) :=
  (keeps_of_unchanged (getCase_unchanged e.caseId)).bind fun _ =>
    (keeps_of_aside (saveEvidence_aside e)).bind fun _ =>
      Hook.keeps_onEvidenceAdded d.token d.registry d.rules e

end Dispatcher

namespace Cli

/-- To add an item at the command line keeps the rows. -/
theorem keeps_addEvidence (d : Dispatcher) (caseId name : String) (id? : Option String)
    (kind source : String) : Keeps (addEvidence d caseId name id? kind source) := by
  have rest (id : String) : Keeps (do
      let now ← Store.now
      let jobs ← d.registerEvidence ⟨id, caseId, kind, name, source, "", 0, "", now⟩
      return textOfLines (["Registered evidence " ++ id ++ " (" ++ name ++ ")"] ++
        jobs.map fun j => "  hook queued " ++ j.id ++ " (" ++ j.moduleName ++ ")")) :=
    keeps_now.bind fun t => (d.keeps_registerEvidence _).bind fun _ => keeps_pure _
  cases id? with
  | some id => exact rest id
  | none => exact keeps_freshIdent.bind rest

/-- **No command touches a job that is there.** -/
theorem keeps_onStore? {d : Dispatcher} {c : Command} {op : StoreM String}
    (chosen : c.onStore? d = some op) : Keeps op := by
  cases c with
  | pushJob caseId evidenceId moduleName =>
    obtain rfl := Option.some.inj chosen
    exact (d.keeps_pushJob _).bind fun _ => keeps_pure _
  | listJobs status? evidence? limit =>
    obtain rfl := Option.some.inj chosen
    exact (keeps_of_unchanged (selectJobs_unchanged status? evidence? limit)).map _
  | showJob id =>
    obtain rfl := Option.some.inj chosen
    exact (keeps_of_unchanged (resolveJob_unchanged id)).map _
  | addHook name module condition enabled =>
    obtain rfl := Option.some.inj chosen
    exact keeps_freshIdent.bind fun _ => (keeps_lift _).bind fun _ =>
      (keeps_of_aside (saveHook_aside _)).bind fun _ => keeps_pure _
  | listHooks =>
    obtain rfl := Option.some.inj chosen
    exact (keeps_of_unchanged listHooks_unchanged).bind fun _ => keeps_pure _
  | removeHook id =>
    obtain rfl := Option.some.inj chosen
    exact (keeps_of_aside (deleteHook_aside id)).bind fun _ => keeps_pure _
  | addCase id name sketchId =>
    obtain rfl := Option.some.inj chosen
    exact (keeps_of_aside (saveCase_aside _)).bind fun _ => keeps_pure _
  | addEvidence caseId name id? kind source =>
    obtain rfl := Option.some.inj chosen
    exact keeps_addEvidence d caseId name id? kind source
  | runnableModules caseId evidenceId =>
    obtain rfl := Option.some.inj chosen
    exact (keeps_of_unchanged (d.runnableModules_unchanged caseId evidenceId)).bind fun _ =>
      keeps_pure _
  | _ => simp [Command.onStore?] at chosen

/-- Every store of the machine has the jobs that it had, and maybe more after them. -/
def KeepsJobs (m m' : Machine) : Prop :=
  ∀ place?, (m.storeAt place?).jobs.rows <+: (m'.storeAt place?).jobs.rows

section Machines

variable {m m' : Machine}

theorem KeepsJobs.trans {m'' : Machine} (h : KeepsJobs m m') (h' : KeepsJobs m' m'') :
    KeepsJobs m m'' :=
  fun place? => (h place?).trans (h' place?)

/-- A machine that keeps its stores keeps their rows. -/
theorem keepsJobs_of_stores (h : m'.stores = m.stores) : KeepsJobs m m' := fun place? => by
  rw [(sameStores_of_stores h place?).jobs]

/-- An operation on one store keeps the rows of all, if it keeps those of its own. -/
theorem keepsJobs_onStore {α : Type} {op : StoreM α} (keeps : Keeps op) (place? : Option Place) :
    KeepsJobs m (m.onStore place? op).2 := by
  have kept := keeps (m.storeAt place?)
  intro other?
  change _ <+: ((m.putStore place? (op (m.storeAt place?)).2).storeAt other?).jobs.rows
  by_cases other : place? = none ∨ other? ≠ place?
  · rw [storeAt_putStore_of_ne other]
  · obtain ⟨there, rfl⟩ : place? ≠ none ∧ other? = place? := by simpa using other
    obtain ⟨p, rfl⟩ := Option.ne_none_iff_exists'.1 there
    rw [storeAt_putStore]
    exact kept

/-- A command on a store keeps the rows, if what it does there keeps them. -/
theorem runOnStore_keeps {op : Dispatcher → StoreM String} (keeps : ∀ d, Keeps (op d)) :
    KeepsJobs m (runOnStore m op).2 := by
  unfold runOnStore
  obtain ⟨e, opened⟩ | ⟨config, place?, opened⟩ := openStore_eq m
  · rw [opened]
    exact keepsJobs_of_stores rfl
  · rw [opened]
    have opening : KeepsJobs m m.freshIdent.2 := keepsJobs_of_stores rfl
    exact opening.trans (keepsJobs_onStore (keeps _) place?)

/-- **An operator's command** keeps the rows of every store, whether it fails or not. -/
theorem runCommand_keeps {c : Command} (operators : c.isOperators = true) :
    KeepsJobs m (runCommand m c).2 := by
  have stored (chosen : ∀ d, ∃ op, c.onStore? d = some op) :
      KeepsJobs m (runOnStore m fun d => (c.onStore? d).getD (pure "")).2 := by
    refine runOnStore_keeps fun d => ?_
    obtain ⟨op, chosen⟩ := chosen d
    rw [chosen]
    exact keeps_onStore? chosen
  cases c with
  | serve bind? => simp [Command.isOperators] at operators
  | work concurrency? tools? => simp [Command.isOperators] at operators
  | listModules => exact keepsJobs_of_stores rfl
  | checkModules path =>
    refine keepsJobs_of_stores ?_
    unfold runCommand checkModules availableModules
    dsimp only
    split
    · rfl
    · rfl
  | _ => exact stored fun d => ⟨_, rfl⟩

/-- **An operator's command** leaves every job of the machine's stores as it was. -/
theorem run_keeps {args : List String}
    (operators : ∀ c, Command.parse args = .ok c → c.isOperators = true) :
    KeepsJobs m (run m args).2 := by
  let m₁ : Machine := { m with environment := Dotenv.load m.host.files m.environment }
  unfold run
  dsimp only
  cases parsed : Command.parse args with
  | error usage => exact keepsJobs_of_stores rfl
  | ok c =>
    have before : KeepsJobs m m₁ := keepsJobs_of_stores rfl
    have during : KeepsJobs m₁ (runCommand m₁ c).2 := runCommand_keeps (operators c parsed)
    exact before.trans (during.trans (keepsJobs_of_stores rfl))

end Machines
end Cli

/-- **Jobs are taken back when a server starts, and only then.**

* Take any store whose job table is in reach, and a server on it with a token that no row has.  The
  start succeeds, is the recovery of all jobs that run, and another start after it takes nothing
  back and leaves the tables as they are.
* Take any machine and a command line that is neither a server's nor a worker's.  However the
  command ends, the rows of each store are the same as before, in their places; new ones come after
  them. -/
theorem recovered_by_starts_only :
    (∀ s : Server, s.store.jobs.lost = false →
      (∀ r ∈ s.store.jobs.rows, r.serverToken ≠ s.dispatcher.token) →
      ∃ n s', s.start = (.ok n, s') ∧ Recovery s n s' ∧
        ∃ s'', s'.start = (.ok 0, s'') ∧ s'.store.SameTables s''.store ∧
          s''.dispatcher = s'.dispatcher) ∧
    ∀ (m : Cli.Machine) (args : List String),
      (∀ c, Cli.Command.parse args = .ok c → c.isOperators = true) →
      ∀ place?, (m.storeAt place?).jobs.rows <+: ((Cli.run m args).2.storeAt place?).jobs.rows := by
  refine ⟨fun s there fresh => ?_, fun m args operators => Cli.run_keeps operators⟩
  obtain ⟨n, s', started, recovery⟩ := s.start_recovery there fresh
  obtain ⟨store, again, same⟩ := recovery.again s'.dispatcher
  exact ⟨n, s', started, recovery, _, again, same, rfl⟩

namespace Dispatch

/-- What two earlier servers left: a job of each still runs, and two others are over. -/
def abandoned : Store :=
  let row (id : JobId) := JobRow.scheduled id "case" "item" "Hayabusa" "former" .epoch
  { lone with jobs.rows :=
      [(row "a").claimed "worker" "former" .epoch, (row "b").finished .failed "no disk" .epoch,
        (row "c").claimed "another" "earlier" .epoch, (row "d").finished .success "" .epoch] }

/-- A machine with that store. -/
def abandonedMachine : Cli.Machine where
  host := { files := {}, launch := fun _ _ => .error "", supply := lone.supply }
  environment := [("DATABASE_URL", "sqlite:///db")]
  stores := [(["db"], abandoned)]
  bind := fun _ => .ok ()

/-- A new server takes the two jobs back that run there.  An operator who queues a job on the same
store leaves them running. -/
theorem recovered_by_starts_only_abandoned :
    let s : Server := ⟨abandoned, { token := "new", registry := {} }⟩
    (s.store.jobs.lost = false ∧ ∀ r ∈ s.store.jobs.rows, r.serverToken ≠ s.dispatcher.token) ∧
    (∃ s', s.start = (.ok 2, s') ∧ Recovery s 2 s') ∧
    (∀ c, Cli.Command.parse ["job", "push", "case", "item", "Hayabusa"] = .ok c →
      c.isOperators = true) ∧
    ∃ m, Cli.run abandonedMachine ["job", "push", "case", "item", "Hayabusa"] = m ∧
      m.1.exitCode = 0 ∧ abandoned.jobs.rows <+: (m.2.storeAt (some ["db"])).jobs.rows := by
  intro s
  have new : ∀ r ∈ s.store.jobs.rows, r.serverToken ≠ s.dispatcher.token := by decide
  have operators : ∀ c, Cli.Command.parse ["job", "push", "case", "item", "Hayabusa"] = .ok c →
      c.isOperators = true := by
    intro c parsed
    have command : Cli.Command.parse ["job", "push", "case", "item", "Hayabusa"] =
        .ok (.pushJob "case" "item" "Hayabusa") := by
      rfl
    obtain rfl := Except.ok.inj (command.symm.trans parsed)
    rfl
  obtain ⟨starts, commands⟩ := recovered_by_starts_only
  obtain ⟨n, s', started, recovery, -⟩ := starts s rfl new
  have two : n = 2 := recovery.counted.trans (by decide)
  subst two
  have pushed := commands abandonedMachine _ operators (some ["db"])
  exact ⟨⟨rfl, new⟩, ⟨s', started, recovery⟩, operators, _, rfl, by decide +kernel, pushed⟩

end Dispatch
end Casework
