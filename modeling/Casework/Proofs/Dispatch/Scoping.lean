/-
# Every job has its item, every item its case

Jobs are queued on two ways: an operator pushes one, or evidence arrives and hooks fire.  Both look
their references up first and write them later, and other servers, requests and operators act in
between.  `World.Linked` says that the store is linked, that what every request has still to write
refers to what is on record, and that no task has to fail a job for a record that is gone.  One turn
keeps it (`World.Linked.turn`), whoever's turn it is, since nothing that is on record is ever lost
(`Store.Follows`).  Hence `references_kept`, for every run from nothing on.
-/

import Casework.Proofs.Store.References
import Casework.Proofs.Dispatch.World

namespace Casework

/-- What a task has in hand is on record; no task has found that it is not. -/
def Store.Backs (s : Store) : ConnectionPhase → Prop
  | .describing job _ => s.Filed job.caseId job.evidenceId
  | .failing _ _ => False
  | _ => True

/-- What is on record stays so, so what a task has in hand does. -/
theorem Store.Follows.backs {s s' : Store} (h : s.Follows s') {phase : ConnectionPhase}
    (backs : s.Backs phase) : s'.Backs phase := by
  cases phase with
  | describing job case? => exact h.filed backs
  | failing id missing => exact backs.elim
  | _ => trivial

namespace Dispatch

/-! ## One server -/

/-- A server whose store follows another server's, and backs the tasks. -/
structure Keeps (s s' : Server) : Prop where
  store : s.store.Follows s'.store
  backs : ∀ c ∈ s'.dispatcher.connections, s'.store.Backs c.phase

section Server

variable {s : Server} {store : Store} {d : Dispatcher} {c : Connection} {worker : WorkerToken}
  {phase : ConnectionPhase}

/-- No task goes on. -/
theorem keeps_of_subset (follows : s.store.Follows store)
    (backs : ∀ c ∈ s.dispatcher.connections, s.store.Backs c.phase)
    (same : ∀ c ∈ d.connections, c ∈ s.dispatcher.connections) : Keeps s ⟨store, d⟩ :=
  ⟨follows, fun c hc => follows.backs (backs c (same c hc))⟩

/-- One task goes over to a phase. -/
theorem keeps_turned (follows : s.store.Follows store)
    (backs : ∀ c ∈ s.dispatcher.connections, s.store.Backs c.phase)
    (turned : Turned worker phase s.dispatcher.connections d.connections)
    (backed : store.Backs phase) : Keeps s ⟨store, d⟩ := by
  refine ⟨follows, fun c' hc' => ?_⟩
  obtain ⟨c, hc, -, -, moved⟩ := turned.kept c' hc'
  by_cases own : c.token = worker
  · rw [if_pos own] at moved
    rw [moved]
    exact backed
  · rw [if_neg own] at moved
    rw [moved]
    exact follows.backs (backs c hc)

/-- A task that turns to something that is on record is backed. -/
theorem keeps_turn (linked : s.store.Linked)
    (backs : ∀ c ∈ s.dispatcher.connections, s.store.Backs c.phase) (worker : WorkerToken)
    (backed : s.store.Backs phase) : Keeps s (s.turn worker phase) :=
  keeps_turned linked.refl backs (turned_turn s worker phase) backed

/-- A task that waits for an answer goes on as the answer says. -/
theorem keeps_await {α : Type} {op : StoreM α} {answer : Except Error α}
    {next : Except Error α → ConnectionPhase} (run : op s.store = (answer, store))
    (follows : s.store.Follows store)
    (backs : ∀ c ∈ s.dispatcher.connections, s.store.Backs c.phase)
    (backed : store.Backs (next answer)) : Keeps s (s.await worker op next).2 := by
  rw [await_eq run]
  exact keeps_turned follows backs (turned_turn (⟨store, s.dispatcher⟩ : Server) worker _) backed

/-- What is done only in one phase keeps the tasks backed if it does so there. -/
theorem keeps_whenIn {go : Connection → List StreamEvent × Server} (linked : s.store.Linked)
    (backs : ∀ c ∈ s.dispatcher.connections, s.store.Backs c.phase)
    (h : ∀ c ∈ s.dispatcher.connections, Keeps s (go c).2) :
    Keeps s (whenIn phase worker s go).2 := by
  obtain idle | ⟨c, member, -, -, goes⟩ := whenIn_cases phase worker s go
  · rw [idle]
    exact ⟨linked.refl, backs⟩
  · rw [goes]
    exact h c member

/-- A job that a task has claimed refers to what is on record. -/
theorem backs_afterClaim (linked : s.store.Linked) {server : InstanceToken} {modules : List String}
    {answer : Except Error (Option Job)}
    (run : Store.claimNext server worker modules s.store = (answer, store)) :
    s.store.Follows store ∧ store.Backs (Server.afterClaim answer) := by
  obtain ⟨ch, changed, ⟨rfl, nothing⟩ | ⟨r, member, time, -, rfl, rfl⟩⟩ :=
    Store.claimNext_changed linked.keyed run
  · refine ⟨linked.moved ⟨_, changed, rfl⟩, ?_⟩
    rcases answer with e | _ | job
    · trivial
    · trivial
    · exact absurd rfl (nothing job)
  · have follows := linked.moved ⟨_, changed, rfl⟩
    refine ⟨follows, ?_⟩
    rw [JobRow.read]
    cases read : (r.claimed worker server time).job? with
    | none => trivial
    | some job =>
      obtain ⟨-, case, item, -⟩ := JobRow.of_job? read
      have filed : store.Filed r.caseId r.evidenceId := follows.filed (linked.filed r member)
      have same : store.Filed job.caseId job.evidenceId := by
        rw [case, item]
        exact filed
      exact same

/-- **A claim** takes a job whose item is on record. -/
theorem keeps_firePoll (linked : s.store.Linked)
    (backs : ∀ c ∈ s.dispatcher.connections, s.store.Backs c.phase) (now : ℕ) (c : Connection) :
    Keeps s (s.firePoll now c).2 := by
  rcases run : Store.claimNext s.dispatcher.token c.token c.modules s.store with ⟨answer, store⟩
  obtain ⟨follows, backed⟩ := backs_afterClaim linked run
  let advanced (c : Connection) : Connection := { c with poll := c.poll.advance now }
  rw [Server.firePoll, await_eq (s := s.updateConnection c.token advanced) run]
  exact keeps_turned follows backs
    (turned_timers (g := advanced) (fun _ => ⟨rfl, rfl⟩) s c.token _) backed

/-- **The records of a claimed job are found,** or the store does not answer: a job never has to be
failed for a record that is gone. -/
theorem keeps_proceed (linked : s.store.Linked)
    (backs : ∀ c ∈ s.dispatcher.connections, s.store.Backs c.phase) (worker : WorkerToken)
    (written : Bool) : Keeps s (s.proceed worker written).2 := by
  unfold Server.proceed
  cases found : s.connection? worker with
  | none => exact ⟨linked.refl, backs⟩
  | some c =>
    obtain ⟨member, rfl⟩ := mem_of_connection? found
    have inHand := backs c member
    cases phase : c.phase with
    | describing job case? =>
      rw [phase] at inHand
      have filed : s.store.Filed job.caseId job.evidenceId := inHand
      simp only [Option.map_some, phase]
      cases case? with
      | none =>
        have there : s.store.HasCase job.caseId := by
          obtain ⟨e, he, -, case⟩ := filed
          rw [← case]
          exact linked.hasCase e he
        obtain ⟨case, run⟩ | run := Store.getCase_of_hasCase there
        · exact keeps_await run linked.refl backs filed
        · exact keeps_await run linked.refl backs trivial
      | some case =>
        obtain ⟨item, run⟩ | run := Store.getEvidence_of_filed filed
        · exact keeps_await run linked.refl backs trivial
        · exact keeps_await run linked.refl backs trivial
    | failing id missing =>
      rw [phase] at inHand
      exact inHand.elim
    | writing d =>
      simp only [Option.map_some, phase, Server.write]
      cases written with
      | true => exact keeps_turn linked backs c.token trivial
      | false => exact keeps_turn linked backs c.token trivial
    | serving => simpa [phase] using (⟨linked.refl, backs⟩ : Keeps s s)
    | leaving => simpa [phase] using (⟨linked.refl, backs⟩ : Keeps s s)
    | released => simpa [phase] using (⟨linked.refl, backs⟩ : Keeps s s)

/-- A task that gives its jobs back keeps the others backed. -/
theorem keeps_release (linked : s.store.Linked)
    (backs : ∀ c ∈ s.dispatcher.connections, s.store.Backs c.phase) (worker : WorkerToken) :
    Keeps s (s.release worker).2 := by
  rcases run : Store.releaseWorkerJobs worker s.store with ⟨answer, store⟩
  have follows : s.store.Follows store := by
    simpa [run] using linked.moved (Store.moved_releaseWorkerJobs worker s.store)
  have after : (s.release worker).2 = (⟨store, s.dispatcher⟩ : Server).turn worker .released := by
    simp [Server.release, Server.onStore, Dispatcher.reclaimWorkerJobs, run]
  rw [after]
  exact keeps_turned follows backs (turned_turn (⟨store, s.dispatcher⟩ : Server) worker _) trivial

/-- A request of one statement writes no reference. -/
theorem follows_statement (linked : s.store.Linked) (statement : Statement)
    (bare : (Action.request statement).isBare = false) :
    s.store.Follows (statement.run s.dispatcher s.store).2 := by
  cases statement with
  | enqueue caseId evidenceId moduleName => simp [Action.isBare] at bare
  | saveEvidence e => simp [Action.isBare] at bare
  | ack report =>
    rw [Statement.run, Store.run_map]
    exact linked.moved (Store.moved_ack report.id report.status report.error s.store)
  | saveCase c => exact linked.saveCase c
  | saveHook h => exact linked.saveHook h
  | deleteHook id => exact linked.deleteHook id

/-- **Whatever a server does** with its tasks and requests of one statement keeps the references. -/
theorem keeps_act (linked : s.store.Linked)
    (backs : ∀ c ∈ s.dispatcher.connections, s.store.Backs c.phase) (a : Action)
    (bare : a.isBare = false) : Keeps s (act s a).2 := by
  cases a with
  | connect now params remote =>
    rw [act]
    cases Server.declaredModules params with
    | error e => exact ⟨linked.refl, backs⟩
    | ok modules =>
      refine ⟨linked.follows_of_rows rfl rfl rfl, fun c hc => ?_⟩
      obtain old | new := List.mem_append.1 hc
      · exact backs c old
      · obtain ⟨-, -, serving⟩ := of_start? (Option.mem_toList.1 new)
        rw [serving]
        trivial
  | poll now worker => exact keeps_whenIn linked backs fun c _ => keeps_firePoll linked backs now c
  | keepAlive now worker =>
    refine keeps_whenIn linked backs fun c _ => ?_
    let advanced (c : Connection) : Connection := { c with keepAlive := c.keepAlive.advance now }
    have turned := turned_timers (g := advanced) (fun _ => ⟨rfl, rfl⟩) s c.token
      (.writing (.keepAlive c.token))
    exact keeps_turned linked.refl backs turned trivial
  | proceed worker written => exact keeps_proceed linked backs worker written
  | leave worker =>
    exact keeps_whenIn linked backs fun _ _ => keeps_turn linked backs worker trivial
  | release worker => exact keeps_whenIn linked backs fun _ _ => keeps_release linked backs worker
  | forget worker =>
    refine keeps_whenIn linked backs fun _ _ => ?_
    exact keeps_of_subset linked.refl backs fun c hc => List.mem_of_mem_filter hc
  | shutdown => exact keeps_of_subset linked.refl backs fun _ hc => hc
  | request statement =>
    exact keeps_of_subset (follows_statement linked statement bare) backs fun _ hc => hc
  | reach table lost =>
    cases table <;>
      exact keeps_of_subset (linked.follows_of_rows rfl rfl rfl) backs fun _ hc => hc

end Server

/-! ## All servers and requests -/

/-- What is left of a request refers to what is on record. -/
def Errand.Backed (s : Store) : Errand → Prop
  | .push _ wish => s.Filed wish.caseId wish.evidenceId
  | .save _ e => s.HasCase e.caseId
  | .look _ e => s.Filed e.caseId e.id
  | .queue _ e _ => s.Filed e.caseId e.id

/-- What a request refers to stays on record. -/
theorem Errand.Backed.mono {s s' : Store} (h : s.Follows s') {t : Errand} (backed : t.Backed s) :
    t.Backed s' := by
  cases t with
  | push d wish => exact h.filed backed
  | save d e => exact h.hasCase backed
  | look d e => exact h.filed backed
  | queue d e hooks => exact h.filed backed

/-- What a request looks up first backs the rest of it. -/
theorem start_backed {d : Dispatcher} {request : Request} {s : Store} {t : Errand}
    (h : (request.start d s).1 = .ok t) : t.Backed s := by
  obtain ⟨wish, e, rfl, -, found⟩ | ⟨e, c, rfl, found⟩ := start_cases h
  · exact Store.filed_of_getEvidence found
  · exact Store.hasCase_of_getCase found

/-- A statement of a request writes what the request has looked up, and backs what is left. -/
theorem next_backed {s : Store} (linked : s.Linked) {t : Errand} (backed : t.Backed s) :
    s.Follows (t.next s).2 ∧ ∀ t', (t.next s).1 = .ok (some t') → t'.Backed (t.next s).2 := by
  cases t with
  | push d wish =>
    have follows := linked.enqueue backed d.token wish.moduleName
    rw [Errand.next, Store.run_bind]
    rcases queued : Store.enqueue d.token wish.caseId wish.evidenceId wish.moduleName s
      with ⟨e | job, s'⟩ <;> rw [queued] at follows
    · exact ⟨follows, by simp⟩
    · exact ⟨follows, by simp⟩
  | save d e =>
    obtain ⟨follows, filed⟩ := linked.saveEvidence backed
    rw [Errand.next, Store.run_bind]
    rcases saved : Store.saveEvidence e s with ⟨er | u, s'⟩ <;> rw [saved] at follows filed
    · exact ⟨follows, by simp⟩
    · refine ⟨follows, fun t' ht => ?_⟩
      obtain rfl := Option.some.inj (Except.ok.inj ht)
      exact filed rfl
  | look d e =>
    have same := Store.listHooks_unchanged s
    rw [Errand.next, Store.run_bind]
    rcases listed : Store.listHooks s with ⟨er | hooks, s'⟩ <;> rw [listed] at same
    · obtain rfl : s' = s := same
      exact ⟨linked.refl, by simp⟩
    · obtain rfl : s' = s := same
      refine ⟨linked.refl, fun t' ht => ?_⟩
      obtain rfl := Option.some.inj (Except.ok.inj ht)
      exact backed
  | queue d e hooks =>
    cases hooks with
    | nil => exact ⟨linked.refl, by simp [Errand.next]⟩
    | cons h hooks =>
      have follows := linked.enqueue backed d.token h.module
      rw [Errand.next, Store.run_bind]
      rcases queued : Store.enqueue d.token e.caseId e.id h.module s with ⟨er | job, s'⟩ <;>
        rw [queued] at follows
      · exact ⟨follows, by simp⟩
      · refine ⟨follows, fun t' ht => ?_⟩
        obtain rfl := Option.some.inj (Except.ok.inj ht)
        exact follows.filed backed

namespace World

/-- The store is linked, and backs all tasks and requests. -/
structure Linked (w : World) : Prop where
  store : w.store.Linked
  members : ∀ d ∈ w.members, ∀ c ∈ d.connections, w.store.Backs c.phase
  errands : ∀ t ∈ w.errands, t.Backed w.store

/-- The empty world refers to nothing. -/
theorem linked_empty (supply : Supply) : Linked (empty supply) :=
  ⟨Store.linked_empty supply, fun _ hd => absurd hd List.not_mem_nil,
    fun _ ht => absurd ht List.not_mem_nil⟩

variable {w : World}

/-- A world stays linked if its store follows and what is new in it is backed. -/
theorem Linked.next (h : w.Linked) {store : Store} {members : List Dispatcher}
    {errands : List Errand} (follows : w.store.Follows store)
    (tasks : ∀ d ∈ members, d ∈ w.members ∨ ∀ c ∈ d.connections, store.Backs c.phase)
    (rest : ∀ t ∈ errands, t ∈ w.errands ∨ t.Backed store) :
    Linked ⟨store, members, errands⟩ := by
  refine ⟨follows.linked, fun d hd c hc => ?_, fun t ht => ?_⟩
  · obtain old | new := tasks d hd
    · exact follows.backs (h.members d old c hc)
    · exact new c hc
  · obtain old | new := rest t ht
    · exact (h.errands t old).mono follows
    · exact new

/-- A server without tasks joins. -/
theorem Linked.join (h : w.Linked) {s : Server} (follows : w.store.Follows s.store)
    (idle : s.dispatcher.connections = []) : (w.join s).Linked := by
  refine h.next follows (fun d hd => ?_) fun _ ht => .inl ht
  obtain old | new := List.mem_append.1 hd
  · exact .inl old
  · obtain rfl := List.mem_singleton.1 new
    exact .inr fun c hc => absurd hc (by rw [idle]; exact List.not_mem_nil)

/-- **A turn keeps every reference,** and nothing that is on record gets lost by it. -/
theorem Linked.turn (h : w.Linked) (t : Turn) :
    w.store.Follows (w.turn t).store ∧ (w.turn t).Linked := by
  have drawn {supply : Supply} : w.store.Follows { w.store with supply := supply } :=
    h.store.follows_of_rows rfl rfl rfl
  have goes := turn_goes w t
  generalize w.turn t = w' at goes ⊢
  cases goes with
  | aside t used servers requests =>
    exact ⟨drawn, h.next drawn (fun d hd => .inl (servers d hd)) fun t ht => .inl (requests t ht)⟩
  | started settings =>
    have follows : w.store.Follows (named w.store settings).start.2.store :=
      drawn.trans (drawn.linked.moved (Store.moved_releaseStaleJobs w.store.supply.next.1 _))
    exact ⟨follows, h.join follows rfl⟩
  | attached settings => exact ⟨drawn, h.join drawn rfl⟩
  | acted i member bare after servers =>
    obtain ⟨follows, backs⟩ := keeps_act (s := ⟨w.store, _⟩) h.store (h.members _ member) _ bare
    rw [after] at follows backs
    refine ⟨follows, h.next follows (fun d hd => ?_) fun _ ht => .inl ht⟩
    obtain old | rfl := servers d hd
    · exact .inl old
    · exact .inr backs
  | begun i member started =>
    refine ⟨h.store.refl, h.next h.store.refl (fun _ hd => .inl hd) fun t ht => ?_⟩
    obtain old | new := List.mem_append.1 ht
    · exact .inl old
    · obtain rfl := List.mem_singleton.1 new
      exact .inr (start_backed started)
  | wentOn n member next requests =>
    obtain ⟨follows, backed⟩ := next_backed h.store (h.errands _ member)
    rw [next] at follows backed
    refine ⟨follows, h.next follows (fun _ hd => .inl hd) fun t ht => ?_⟩
    obtain old | rfl := requests t ht
    · exact .inl old
    · exact .inr (backed t rfl)
  | reached table lost =>
    have follows : w.store.Follows (w.store.reach table lost) := by
      cases table <;> exact h.store.follows_of_rows rfl rfl rfl
    exact ⟨follows, h.next follows (fun _ hd => .inl hd) fun _ ht => .inl ht⟩

/-- **A run keeps every reference,** and nothing that is on record gets lost by it. -/
theorem Linked.run (h : w.Linked) (turns : List Turn) :
    w.store.Follows (w.run turns).store ∧ (w.run turns).Linked := by
  refine run_induction (P := fun w' => w.store.Follows w'.store ∧ w'.Linked) (Q := fun _ => True)
    (fun w' t _ h' => ?_) (fun _ _ => trivial) ⟨h.store.refl, h⟩
  obtain ⟨before, linked⟩ := h'
  obtain ⟨after, linked⟩ := linked.turn t
  exact ⟨before.trans after, linked⟩

end World

/-! ## The main statement -/

variable {s : Store} {caseId evidenceId : String}

/-- The jobs that are listed for an item of a case are the case's. -/
theorem mem_evidenceJobs (linked : s.Linked) {jobs : List Job}
    (h : (Dispatcher.evidenceJobs caseId evidenceId s).1 = .ok jobs) {job : Job} (hj : job ∈ jobs) :
    job.caseId = caseId ∧ job.evidenceId = evidenceId := by
  have same := Store.getEvidence_unchanged caseId evidenceId s
  rw [Dispatcher.evidenceJobs, Store.run_bind] at h
  rcases found : Store.getEvidence caseId evidenceId s with ⟨e | x, s'⟩ <;> rw [found] at h same
  · simp at h
  · obtain rfl : s' = s := same
    have filed : s'.Filed caseId evidenceId := Store.filed_of_getEvidence (e := x) (by rw [found])
    obtain ⟨r, -, read, case, item⟩ := linked.listJobs filed h hj
    obtain ⟨-, case', item', -⟩ := JobRow.of_job? read
    exact ⟨case'.trans case, item'.trans item⟩

/-- An outcome that is reported for a module is that of one of the jobs. -/
theorem latestRun_of_status {jobs : List Job} {m : Module} {status : JobStatus}
    (h : (Dispatcher.latestRun jobs m).status? = some status) :
    ∃ job ∈ jobs, job.moduleName = m.name ∧
      Dispatcher.latestRun jobs m = ⟨m.name, m.description, some job.status, job.error⟩ := by
  unfold Dispatcher.latestRun at h ⊢
  cases found : jobs.reverse.find? fun j => j.moduleName == m.name with
  | none => simp [found] at h
  | some job =>
    have name : job.moduleName = m.name := by simpa using List.find?_some found
    have member : job ∈ jobs := List.mem_reverse.1 (List.mem_of_find?_eq_some found)
    exact ⟨job, member, name, rfl⟩

/-- An outcome that is reported for an item of a case is that of a job on the item, in the case. -/
theorem mem_runnableModules (linked : s.Linked) {d : Dispatcher} {runs : List ModuleRun}
    (h : (d.runnableModules caseId evidenceId s).1 = .ok runs) {run : ModuleRun} (hr : run ∈ runs)
    {status : JobStatus} (reported : run.status? = some status) :
    ∃ r ∈ s.jobs.rows, r.caseId = caseId ∧ r.evidenceId = evidenceId ∧ r.moduleName = run.name ∧
      r.status = status ∧ r.error = run.error := by
  have same := Store.getEvidence_unchanged caseId evidenceId s
  rw [Dispatcher.runnableModules, Store.run_bind] at h
  rcases found : Store.getEvidence caseId evidenceId s with ⟨e | x, s'⟩ <;> rw [found] at h same
  · simp at h
  · obtain rfl : s' = s := same
    have filed : s'.Filed caseId evidenceId := Store.filed_of_getEvidence (e := x) (by rw [found])
    dsimp only at h
    rw [Store.run_bind] at h
    rcases listed : Store.listJobs evidenceId s' with ⟨e | jobs, s''⟩ <;> rw [listed] at h
    · simp at h
    · obtain rfl : (d.registry.supported x).map (Dispatcher.latestRun jobs) = runs :=
        Except.ok.inj h
      obtain ⟨m, -, rfl⟩ := List.mem_map.1 hr
      obtain ⟨job, hj, name, outcome⟩ := latestRun_of_status reported
      obtain ⟨r, hr, read, case, item⟩ := linked.listJobs filed (by rw [listed]) hj
      obtain ⟨-, -, -, moduleName, jobStatus, error⟩ := JobRow.of_job? read
      rw [outcome] at reported ⊢
      have ended : job.status = status := Option.some.inj reported
      exact ⟨r, hr, case, item, moduleName.symm.trans name, jobStatus.symm.trans ended, error.symm⟩

/-- **References are kept.**  Whatever servers, workers, clients and operators do on a store that
was empty, in any order and interleaving, with restarts and tables out of reach:

* the case of every item of evidence is on record, and so is the item of every job, in the job's
  case;
* the jobs listed for an item are those of the case that it was asked for in, also when others act
  between the look at the item and the list, and so are the outcomes that are reported for it;
* no task ever has to fail a job for a record that is gone. -/
theorem references_kept (supply : Supply) (turns : List Turn) :
    let w := (World.empty supply).run turns
    (∀ e ∈ w.store.evidences.rows, ∃ c ∈ w.store.cases.rows, c.id = e.caseId) ∧
      (∀ r ∈ w.store.jobs.rows, ∃ e ∈ w.store.evidences.rows,
        e.id = r.evidenceId ∧ e.caseId = r.caseId) ∧
      (∀ caseId evidenceId jobs, (Dispatcher.evidenceJobs caseId evidenceId w.store).1 = .ok jobs →
        ∀ job ∈ jobs, job.caseId = caseId ∧ job.evidenceId = evidenceId) ∧
      (∀ caseId evidenceId e more jobs, (Store.getEvidence caseId evidenceId w.store).1 = .ok e →
        (Store.listJobs evidenceId (w.run more).store).1 = .ok jobs →
        ∀ job ∈ jobs, job.caseId = caseId ∧ job.evidenceId = evidenceId) ∧
      (∀ (d : Dispatcher) caseId evidenceId runs,
        (d.runnableModules caseId evidenceId w.store).1 = .ok runs →
        ∀ run ∈ runs, ∀ status, run.status? = some status →
          ∃ r ∈ w.store.jobs.rows, r.caseId = caseId ∧ r.evidenceId = evidenceId ∧
            r.moduleName = run.name ∧ r.status = status ∧ r.error = run.error) ∧
      ∀ d ∈ w.members, ∀ c ∈ d.connections, ∀ id missing, c.phase ≠ .failing id missing := by
  intro w
  have linked : w.Linked := ((World.linked_empty supply).run turns).2
  refine ⟨linked.store.hasCase, linked.store.filed, ?_, ?_, ?_, ?_⟩
  · intro caseId evidenceId jobs h job hj
    exact mem_evidenceJobs linked.store h hj
  · intro caseId evidenceId e more jobs found listed job hj
    obtain ⟨follows, later⟩ := linked.run more
    have filed := follows.filed (Store.filed_of_getEvidence found)
    obtain ⟨r, -, read, case, item⟩ := later.store.listJobs filed listed hj
    obtain ⟨-, case', item', -⟩ := JobRow.of_job? read
    exact ⟨case'.trans case, item'.trans item⟩
  · intro d caseId evidenceId runs h run hr status reported
    exact mem_runnableModules linked.store h hr reported
  · intro d hd c hc id missing failing
    have backs := linked.members d hd c hc
    rw [failing] at backs
    exact backs

/-- A module that any item suits. -/
def hayabusa : Module where
  name := "Hayabusa"
  description := ""
  supports _ := true
  check h := (.ok (), h)
  run _ h := (.panicked, h)

/-- A server starts, a case and a hook are saved, an item comes in and its hook fires, a job is
pushed, and a worker claims the first of the two jobs. -/
def workday : List Turn :=
  [.start { token := "", registry := ⟨[hayabusa]⟩ },
    .act 0 (.request (.saveCase loneCase)),
    .act 0 (.request (.saveHook ⟨"hook", .onEvidenceAdded, "All", "Hayabusa", "*", true⟩)),
    .ask 0 (.register loneItem), .goOn 0, .goOn 0, .goOn 0, .goOn 0,
    .ask 0 (.push ⟨"case", "item", "Hayabusa"⟩), .goOn 0,
    .act 0 (.connect 0 ⟨"Hayabusa", 1⟩ "localhost"), .act 0 (.poll 0 "wwww")]

/-- At the end of the workday two jobs are listed for the item and an outcome is reported, all of
them the case's, and the worker's task has a job in hand. -/
theorem references_kept_workday :
    let w := (World.empty lone.supply).run workday
    (∃ jobs, (Dispatcher.evidenceJobs "case" "item" w.store).1 = .ok jobs ∧ jobs.length = 2 ∧
      ∀ job ∈ jobs, job.caseId = "case" ∧ job.evidenceId = "item") ∧
    (∃ d ∈ w.members, ∃ runs, (d.runnableModules "case" "item" w.store).1 = .ok runs ∧
      ∃ run ∈ runs, run.status? = some .scheduled ∧
        ∃ r ∈ w.store.jobs.rows, r.caseId = "case" ∧ r.moduleName = run.name) ∧
    ∃ d ∈ w.members, ∃ c ∈ d.connections, c.phase.inHand? = some "ww" ∧
      ∀ id missing, c.phase ≠ .failing id missing := by
  intro w
  have kept := references_kept lone.supply workday
  obtain ⟨-, -, evidenceJobs, -, runnable, phases⟩ := kept
  refine ⟨?_, ?_, ?_⟩
  · have length : (Dispatcher.evidenceJobs "case" "item" w.store).1.toOption.map List.length =
        some 2 := by decide +kernel
    cases listed : (Dispatcher.evidenceJobs "case" "item" w.store).1 with
    | error e => simp [listed, Except.toOption] at length
    | ok jobs =>
      have two : jobs.length = 2 := by simpa [listed, Except.toOption] using length
      exact ⟨jobs, rfl, two, evidenceJobs "case" "item" jobs listed⟩
  · obtain ⟨d, hd, reported⟩ : ∃ d ∈ w.members,
        (d.runnableModules "case" "item" w.store).1.toOption.map (List.map ModuleRun.status?) =
          some [some .scheduled] := by decide +kernel
    cases ran : (d.runnableModules "case" "item" w.store).1 with
    | error e => simp [ran, Except.toOption] at reported
    | ok runs =>
      obtain ⟨run, rfl, status⟩ : ∃ run, runs = [run] ∧ run.status? = some .scheduled := by
        simpa [ran, Except.toOption, List.map_eq_singleton_iff] using reported
      have member : run ∈ [run] := List.mem_singleton_self run
      obtain ⟨r, hr, case, -, name, -⟩ := runnable d "case" "item" [run] ran run member _ status
      exact ⟨d, hd, [run], ran, run, member, status, r, hr, case, name⟩
  · obtain ⟨d, hd, c, hc, hand⟩ : ∃ d ∈ w.members, ∃ c ∈ d.connections,
        c.phase.inHand? = some "ww" := by decide +kernel
    exact ⟨d, hd, c, hc, hand, phases d hd c hc⟩

end Dispatch
end Casework
