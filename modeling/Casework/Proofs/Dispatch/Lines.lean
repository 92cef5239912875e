/-
# Lines show the items on record

The line that hands a job out shows the job's item.  The task looks the item up, and writes the
line later; another record may be saved under the item's id in between.  So a line shows an item as
it was when the task looked: a line that a task is about to write was due before the action, or its
item is on record (`Quotes`, for every action `quotes_act`).

Items change by the saving of records only, and a record changes the item of its own id only.  So
while no turn saves a record under an id (`World.Spares`) the item of the id is on record as it was,
and every line that shows it, and was not due before, shows it so (`World.Keeps.run`).
-/

import Casework.Proofs.Dispatch.Handover
import Casework.Proofs.Dispatch.Scoping
import Casework.Proofs.Store.Items

namespace Casework

/-- The item on the line that a task is about to write. -/
def ConnectionPhase.item? : ConnectionPhase → Option Evidence
  | .writing d => d.evidence?
  | _ => none

/-- An item that is found is on record. -/
theorem Store.mem_of_getEvidence {s : Store} {caseId id : String} {x : Evidence}
    (h : (getEvidence caseId id s).1 = .ok x) : x ∈ s.evidences.rows := by
  by_cases lost : s.evidences.lost = true
  · simp [getEvidence, lost] at h
  · cases found : s.evidences.rows.find? fun e => e.caseId == caseId && e.id == id with
    | none => simp [getEvidence, lost, found] at h
    | some e =>
      obtain rfl : e = x := by simpa [getEvidence, lost, found] using h
      exact List.mem_of_find?_eq_some found

/-- What a task is about to show after a look-up comes from the record that it found. -/
theorem Server.item?_afterLookUp {α : Type} {id : JobId} {found : α → ConnectionPhase}
    {answer : Except Error α} {x : Evidence}
    (shown : (afterLookUp id found answer).item? = some x) :
    ∃ a, answer = .ok a ∧ (found a).item? = some x := by
  rcases answer with e | a
  · cases e <;> cases shown
  · exact ⟨a, rfl, shown⟩

namespace Dispatch

/-! ## One server -/

/-- The items on record are as they were, and what a task is about to show of one it was about to
show before, or is on record. -/
structure Quotes (s s' : Server) : Prop where
  items : s'.store.evidences.rows = s.store.evidences.rows
  tasks : ∀ c' ∈ s'.dispatcher.connections,
    (∃ c ∈ s.dispatcher.connections, c.phase = c'.phase) ∨
      ∀ x, c'.phase.item? = some x → x ∈ s.store.evidences.rows

section Server

variable {s : Server} {store : Store} {d : Dispatcher} {worker : WorkerToken}
  {phase : ConnectionPhase}

/-- No task goes on. -/
theorem quotes_of_subset (items : store.evidences.rows = s.store.evidences.rows)
    (same : ∀ c ∈ d.connections, c ∈ s.dispatcher.connections) : Quotes s ⟨store, d⟩ :=
  ⟨items, fun c hc => .inl ⟨c, same c hc, rfl⟩⟩

theorem quotes_refl (s : Server) : Quotes s s := quotes_of_subset rfl fun _ hc => hc

/-- One task goes over to a phase. -/
theorem quotes_turned (items : store.evidences.rows = s.store.evidences.rows)
    (turned : Turned worker phase s.dispatcher.connections d.connections)
    (shows : ∀ x, phase.item? = some x → x ∈ s.store.evidences.rows) : Quotes s ⟨store, d⟩ := by
  refine ⟨items, fun c' hc' => ?_⟩
  obtain ⟨c, hc, -, -, moved⟩ := turned.kept c' hc'
  by_cases own : c.token = worker
  · rw [if_pos own] at moved
    rw [moved]
    exact .inr shows
  · rw [if_neg own] at moved
    exact .inl ⟨c, hc, by rw [moved]⟩

/-- A task that turns to a phase without an item quotes nothing new. -/
theorem quotes_turn (s : Server) (worker : WorkerToken) (silent : phase.item? = none) :
    Quotes s (s.turn worker phase) :=
  quotes_turned rfl (turned_turn s worker phase) fun x shown => by simp [silent] at shown

/-- A task that waits for an answer goes on as the answer says. -/
theorem quotes_await {α : Type} {op : StoreM α} {answer : Except Error α}
    {next : Except Error α → ConnectionPhase} (run : op s.store = (answer, store))
    (items : store.evidences.rows = s.store.evidences.rows)
    (shows : ∀ x, (next answer).item? = some x → x ∈ s.store.evidences.rows) :
    Quotes s (s.await worker op next).2 := by
  rw [await_eq run]
  exact quotes_turned items (turned_turn (⟨store, s.dispatcher⟩ : Server) worker _) shows

/-- What is done only in one phase quotes nothing new if it does not there. -/
theorem quotes_whenIn {go : Connection → List StreamEvent × Server}
    (h : ∀ c ∈ s.dispatcher.connections, Quotes s (go c).2) :
    Quotes s (whenIn phase worker s go).2 := by
  obtain idle | ⟨c, member, -, -, goes⟩ := whenIn_cases phase worker s go
  · rw [idle]
    exact quotes_refl s
  · rw [goes]
    exact h c member

/-- What changes the job table leaves the items alone. -/
theorem evidences_moved {s s' : Store} (moved : s.Moved s') : s'.evidences = s.evidences := by
  obtain ⟨ch, changed, -⟩ := moved
  exact changed.evidences

/-- A claim changes no items. -/
theorem evidences_claimNext (server : InstanceToken) (worker : WorkerToken) (modules : List String)
    (s : Store) : (Store.claimNext server worker modules s).2.evidences = s.evidences := by
  obtain ⟨e, supply, -, -, run⟩ | ⟨supply, -, -, run⟩ | ⟨front, r, back, -, -, -, -, run⟩ :=
    Store.claimNext_cases server worker modules s <;> rw [run]

/-- **A claim** quotes the item as it is on record. -/
theorem quotes_firePoll (s : Server) (now : ℕ) (c : Connection) :
    Quotes s (s.firePoll now c).2 := by
  have table := evidences_claimNext s.dispatcher.token c.token c.modules s.store
  rcases run : Store.claimNext s.dispatcher.token c.token c.modules s.store with ⟨answer, store⟩
  rw [run] at table
  let advanced (c : Connection) : Connection := { c with poll := c.poll.advance now }
  rw [Server.firePoll, await_eq (s := s.updateConnection c.token advanced) run]
  refine quotes_turned (congrArg Table.rows table)
    (turned_timers (g := advanced) (fun _ => ⟨rfl, rfl⟩) s c.token _) fun x shown => ?_
  rcases answer with e | _ | job <;> cases shown

/-- **A task shows the item that it finds on record.** -/
theorem quotes_proceed (s : Server) (worker : WorkerToken) (written : Bool) :
    Quotes s (s.proceed worker written).2 := by
  unfold Server.proceed
  cases found : s.connection? worker with
  | none => exact quotes_refl s
  | some c =>
    cases phase : c.phase with
    | describing job case? =>
      simp only [Option.map_some, phase]
      cases case? with
      | none =>
        have run := run_eq_of_unchanged (Store.getCase_unchanged job.caseId s.store)
        refine quotes_await run rfl fun x shown => ?_
        obtain ⟨case, -, silent⟩ := Server.item?_afterLookUp shown
        cases silent
      | some case =>
        have run := run_eq_of_unchanged
          (Store.getEvidence_unchanged job.caseId job.evidenceId s.store)
        refine quotes_await run rfl fun x shown => ?_
        obtain ⟨item, there, shown⟩ := Server.item?_afterLookUp shown
        obtain rfl : item = x := Option.some.inj shown
        exact Store.mem_of_getEvidence there
    | failing id missing =>
      simp only [Option.map_some, phase]
      have table := evidences_moved
        (Store.moved_ack id .failed (missing ++ " no longer exists") s.store)
      rcases run : Store.ack id .failed (missing ++ " no longer exists") s.store
        with ⟨answer, store⟩
      rw [run] at table
      refine quotes_await run (congrArg Table.rows table) fun x shown => ?_
      cases answer <;> cases shown
    | writing d =>
      simp only [Option.map_some, phase, Server.write]
      cases written with
      | true => exact quotes_turn s worker rfl
      | false => exact quotes_turn s worker rfl
    | serving => simpa [phase] using quotes_refl s
    | leaving => simpa [phase] using quotes_refl s
    | released => simpa [phase] using quotes_refl s

/-- A task that gives its jobs back quotes nothing. -/
theorem quotes_release (s : Server) (worker : WorkerToken) : Quotes s (s.release worker).2 := by
  have table := evidences_moved (Store.moved_releaseWorkerJobs worker s.store)
  rcases run : Store.releaseWorkerJobs worker s.store with ⟨answer, store⟩
  have after : (s.release worker).2 = (⟨store, s.dispatcher⟩ : Server).turn worker .released := by
    simp [Server.release, Server.onStore, Dispatcher.reclaimWorkerJobs, run]
  rw [run] at table
  rw [after]
  exact quotes_turned (congrArg Table.rows table)
    (turned_turn (⟨store, s.dispatcher⟩ : Server) worker _)
    fun x shown => by cases shown

/-- A request of one statement saves no item. -/
theorem evidences_statement (d : Dispatcher) (statement : Statement)
    (bare : (Action.request statement).isBare = false) (s : Store) :
    (statement.run d s).2.evidences = s.evidences := by
  cases statement with
  | enqueue caseId evidenceId moduleName => simp [Action.isBare] at bare
  | saveEvidence e => simp [Action.isBare] at bare
  | ack report =>
    rw [Statement.run, Store.run_map]
    exact evidences_moved (Store.moved_ack report.id report.status report.error s)
  | saveCase c =>
    obtain ⟨e, run⟩ | ⟨-, run⟩ := Store.saveCase_cases c s <;> rw [Statement.run, run]
  | saveHook h =>
    obtain ⟨e, run⟩ | ⟨-, run⟩ := Store.saveHook_cases h s <;> rw [Statement.run, run]
  | deleteHook id =>
    obtain ⟨e, run⟩ | ⟨-, run⟩ := Store.deleteHook_cases id s <;> rw [Statement.run, run]

/-- Items stay in a table that goes out of reach. -/
theorem items_reach (s : Store) (table : Store.TableName) (lost : Bool) :
    (s.reach table lost).evidences.rows = s.evidences.rows := by
  cases table <;> rfl

/-- **Whatever a server does** with its tasks and requests of one statement, its lines show items
that are on record. -/
theorem quotes_act (s : Server) (a : Action) (bare : a.isBare = false) :
    Quotes s (act s a).2 := by
  cases a with
  | connect now params remote =>
    rw [act]
    cases Server.declaredModules params with
    | error e => exact quotes_refl s
    | ok modules =>
      refine ⟨rfl, fun c hc => ?_⟩
      obtain old | new := List.mem_append.1 hc
      · exact .inl ⟨c, old, rfl⟩
      · obtain ⟨-, -, serving⟩ := of_start? (Option.mem_toList.1 new)
        rw [serving]
        exact .inr fun x shown => by cases shown
  | poll now worker => exact quotes_whenIn fun c _ => quotes_firePoll s now c
  | keepAlive now worker =>
    refine quotes_whenIn fun c _ => ?_
    let advanced (c : Connection) : Connection := { c with keepAlive := c.keepAlive.advance now }
    have turned := turned_timers (g := advanced) (fun _ => ⟨rfl, rfl⟩) s c.token
      (.writing (.keepAlive c.token))
    exact quotes_turned rfl turned fun x shown => by cases shown
  | proceed worker written => exact quotes_proceed s worker written
  | leave worker => exact quotes_whenIn fun _ _ => quotes_turn s worker rfl
  | release worker => exact quotes_whenIn fun _ _ => quotes_release s worker
  | forget worker =>
    refine quotes_whenIn fun _ _ => ?_
    exact quotes_of_subset rfl fun c hc => List.mem_of_mem_filter hc
  | shutdown => exact quotes_of_subset rfl fun _ hc => hc
  | request statement =>
    have table := evidences_statement s.dispatcher statement bare s.store
    exact quotes_of_subset (congrArg Table.rows table) fun _ hc => hc
  | reach table lost => exact quotes_of_subset (items_reach s.store table lost) fun _ hc => hc

end Server

/-! ## All servers and requests -/

/-- To queue a job changes no items. -/
theorem evidences_enqueue (server : InstanceToken) (caseId evidenceId moduleName : String)
    (s : Store) : (Store.enqueue server caseId evidenceId moduleName s).2.evidences =
      s.evidences := by
  obtain ⟨e, supply, -, -, run⟩ | ⟨row, rfl, -, -, run⟩ :=
    Store.enqueue_cases server caseId evidenceId moduleName s <;> rw [run]

/-- Saving a record leaves the items of other ids as they are. -/
theorem mem_saveEvidence {s : Store} {e x : Evidence} (held : x ∈ s.evidences.rows)
    (other : e.id ≠ x.id) : x ∈ (Store.saveEvidence e s).2.evidences.rows := by
  obtain ⟨er, run⟩ | ⟨-, rows, run, ⟨-, rfl⟩ | ⟨-, rfl⟩⟩ := Store.saveEvidence_cases e s
  · rw [run]
    exact held
  · rw [run]
    exact List.mem_append_left _ held
  · rw [run]
    refine List.mem_map.2 ⟨x, held, ?_⟩
    simp [Ne.symm other]

/-- A statement of a request leaves an item as it is, unless it saves a record under its id. -/
theorem mem_next {s : Store} {t : Errand} {x : Evidence} (held : x ∈ s.evidences.rows)
    (other : ∀ d e, t = .save d e → e.id ≠ x.id) : x ∈ (t.next s).2.evidences.rows := by
  cases t with
  | push d wish =>
    have table := evidences_enqueue d.token wish.caseId wish.evidenceId wish.moduleName s
    rw [Errand.next, Store.run_bind]
    rcases run : Store.enqueue d.token wish.caseId wish.evidenceId wish.moduleName s
      with ⟨e | job, s'⟩ <;> rw [run] at table <;> exact table ▸ held
  | save d e =>
    have after := mem_saveEvidence held (other d e rfl)
    rw [Errand.next, Store.run_bind]
    rcases run : Store.saveEvidence e s with ⟨er | u, s'⟩ <;> rw [run] at after <;> exact after
  | look d e =>
    have same := Store.listHooks_unchanged s
    rw [Errand.next, Store.run_bind]
    rcases run : Store.listHooks s with ⟨er | hooks, s'⟩ <;> rw [run] at same <;>
      exact same ▸ held
  | queue d e hooks =>
    cases hooks with
    | nil => exact held
    | cons h hooks =>
      have table := evidences_enqueue d.token e.caseId e.id h.module s
      rw [Errand.next, Store.run_bind]
      rcases run : Store.enqueue d.token e.caseId e.id h.module s with ⟨er | job, s'⟩ <;>
        rw [run] at table <;> exact table ▸ held

namespace World

/-- The turn saves a record under the id. -/
def Saves (w : World) (id : String) : Turn → Prop
  | .goOn n => ∃ d e, w.errands[n]? = some (.save d e) ∧ e.id = id
  | _ => False

/-- No turn of the run saves a record under the id. -/
def Spares (id : String) : World → List Turn → Prop
  | _, [] => True
  | w, t :: turns => ¬ w.Saves id t ∧ Spares id (w.turn t) turns

/-- A task stands there, or what it would show of an item there is on record. -/
def Explains (w : World) (phase : ConnectionPhase) : Prop :=
  (∃ d ∈ w.members, ∃ c ∈ d.connections, c.phase = phase) ∨
    ∀ x, phase.item? = some x → x ∈ w.store.evidences.rows

variable {w : World} {item : Evidence} {due : JobDescriptor → Prop}

/-- **Where a task stands after a turn** it stood before, or it shows an item that is on record. -/
theorem explains_turn (w : World) (t : Turn) :
    ∀ d ∈ (w.turn t).members, ∀ c ∈ d.connections, w.Explains c.phase := by
  have same {d : Dispatcher} (member : d ∈ w.members) : ∀ c ∈ d.connections, w.Explains c.phase :=
    fun c hc => .inl ⟨d, member, c, hc, rfl⟩
  have join {s : Server} (idle : s.dispatcher.connections = []) :
      ∀ d ∈ (w.join s).members, ∀ c ∈ d.connections, w.Explains c.phase := by
    intro d hd c hc
    obtain old | new := List.mem_append.1 hd
    · exact same old c hc
    · rw [List.mem_singleton.1 new, idle] at hc
      cases hc
  have goes := turn_goes w t
  generalize w.turn t = w' at goes ⊢
  cases goes with
  | aside t used servers requests => exact fun d hd => same (servers d hd)
  | started settings => exact join rfl
  | attached settings => exact join rfl
  | @acted i a d s members member bare after servers =>
    intro d' hd' c' hc'
    obtain old | rfl := servers d' hd'
    · exact same old c' hc'
    · have quotes := quotes_act ⟨w.store, d⟩ a bare
      rw [after] at quotes
      exact (quotes.tasks c' hc').imp_left fun ⟨c, hc, phase⟩ => ⟨d, member, c, hc, phase⟩
  | begun i member started => exact fun d hd => same hd
  | wentOn n member next requests => exact fun d hd => same hd
  | reached table lost => exact fun d hd => same hd

/-- **A turn leaves an item as it is,** unless it saves a record under its id. -/
theorem mem_turn {x : Evidence} (held : x ∈ w.store.evidences.rows) {t : Turn}
    (spared : ¬ w.Saves x.id t) : x ∈ (w.turn t).store.evidences.rows := by
  cases t with
  | start settings =>
    have table := evidences_moved (Store.moved_releaseStaleJobs w.store.supply.next.1
      { w.store with supply := w.store.supply.next.2 })
    exact table ▸ held
  | act i a =>
    rw [turn]
    cases w.members[i]? with
    | none => exact held
    | some d =>
      cases bare : a.isBare with
      | true => exact held
      | false => exact (quotes_act ⟨w.store, d⟩ a bare).items ▸ held
  | ask i request =>
    rw [turn]
    cases w.members[i]? with
    | none => exact held
    | some d =>
      have same := start_unchanged d request w.store
      dsimp only
      rcases run : request.start d w.store with ⟨e | t, store⟩ <;> rw [run] at same <;>
        obtain rfl : store = w.store := same <;> exact held
  | goOn n =>
    rw [turn]
    cases found : w.errands[n]? with
    | none => exact held
    | some t =>
      have after := mem_next (t := t) held fun d e save same => spared ⟨d, e, save ▸ found, same⟩
      dsimp only
      rcases next : t.next w.store with ⟨e | _ | t', store⟩ <;> rw [next] at after <;> exact after
  | reach table lost => exact items_reach w.store table lost ▸ held
  | _ => exact held

/-! ## What stays as it is -/

/-- The item is on record, and a line that a task is about to write shows it, if it shows one of its
id, as it is, unless the line is one of those that were due. -/
structure Keeps (item : Evidence) (due : JobDescriptor → Prop) (w : World) : Prop where
  linked : w.Linked
  held : item ∈ w.store.evidences.rows
  lines : ∀ d ∈ w.members, ∀ c ∈ d.connections, ∀ line, c.phase = .writing line →
    ∀ x, line.evidence? = some x → x.id = item.id → x = item ∨ due line

/-- An item is kept from the moment on at which it is on record. -/
theorem Linked.keeps (h : w.Linked) (held : item ∈ w.store.evidences.rows) : Keeps item
    (fun line => ∃ d ∈ w.members, ∃ c ∈ d.connections, c.phase = .writing line) w :=
  ⟨h, held, fun d hd c hc _ phase _ _ _ => .inr ⟨d, hd, c, hc, phase⟩⟩

/-- **An item is kept** in a turn that does not save it. -/
theorem Keeps.turn (h : w.Keeps item due) {t : Turn} (spared : ¬ w.Saves item.id t) :
    (w.turn t).Keeps item due := by
  refine ⟨(h.linked.turn t).2, mem_turn h.held spared, fun d hd c hc line phase x shown same => ?_⟩
  obtain ⟨d', hd', c', hc', before⟩ | found := explains_turn w t d hd c hc
  · exact h.lines d' hd' c' hc' line (before.trans phase) x shown same
  · rw [phase] at found
    exact .inl (h.linked.store.eq_of_id (found x shown) h.held same)

/-- **An item is kept** until it is saved again. -/
theorem Keeps.run (h : w.Keeps item due) {turns : List Turn} (spared : w.Spares item.id turns) :
    (w.run turns).Keeps item due := by
  induction turns generalizing w with
  | nil => exact h
  | cons t turns ih => exact ih (h.turn spared.1) spared.2

/-- **An item that is kept is found,** if its table is in reach. -/
theorem Keeps.getEvidence (h : w.Keeps item due) (there : w.store.evidences.lost = false) :
    Store.getEvidence item.caseId item.id w.store = (.ok item, w.store) :=
  ((Store.run_getEvidence there h.linked.store.single item.caseId item.id).1 item).2
    ⟨h.held, rfl, rfl⟩

/-- **And it is shown** as it is, save by a line that was due before. -/
theorem Keeps.line (h : w.Keeps item due) {d : Dispatcher} (member : d ∈ w.members) {a : Action}
    {worker : WorkerToken} {line : JobDescriptor}
    (seen : .line worker line ∈ (act ⟨w.store, d⟩ a).1) {x : Evidence}
    (shown : line.evidence? = some x) (same : x.id = item.id) : x = item ∨ due line := by
  obtain ⟨⟨c, hc, -, phase⟩, -⟩ := (act_effect h.linked.store.keyed a).line seen
  exact h.lines d member c hc line phase x shown same

end World
end Dispatch
end Casework
