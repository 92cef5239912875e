/-
# Operations that fail leave the tables as they are

An operation of several statements may fail halfway.  `Store.AllOrNothing` says of an operation that
it leaves all tables as they are if it fails (`Store.SameTables`), and two rules say when one thing
after another does: when the first only looks things up (`AllOrNothing.after_look`), or when nothing
that comes after the first can fail (`AllOrNothing.before`).

The second rule asks for a store that never refuses a job: `Store.Ready` says that all tables are in
reach, that jobs bear names of the supply, so that the next one is free, and that every hook on
record can be read.  What the queue itself does to a store keeps it ready.
-/

import Casework.Proofs.Store.Listing
import Casework.Proofs.Store.Operations

namespace Casework

namespace Store

/-- The tables are as before; names and times may have been drawn. -/
structure SameTables (s s' : Store) : Prop where
  jobs : s'.jobs = s.jobs
  cases : s'.cases = s.cases
  evidences : s'.evidences = s.evidences
  hooks : s'.hooks = s.hooks

/-- If the operation fails, it leaves the tables as they are. -/
def AllOrNothing {α : Type} (op : StoreM α) (s : Store) : Prop :=
  ∀ e s', op s = (.error e, s') → s.SameTables s'

/-- No table is out of reach. -/
structure InReach (s : Store) : Prop where
  jobs : s.jobs.lost = false
  cases : s.cases.lost = false
  evidences : s.evidences.lost = false
  hooks : s.hooks.lost = false

/-- A store that never refuses a job. -/
structure Ready (s : Store) : Prop where
  fresh : s.supply.Fresh
  keyed : Keyed s.jobs.rows
  drawn : ∀ r ∈ s.jobs.rows, s.supply.Drawn r.id
  readable : ∀ r ∈ s.hooks.rows, ∃ h, r.read = .ok h
  there : s.InReach

variable {α β : Type} {s s' s'' : Store}

theorem SameTables.refl (s : Store) : s.SameTables s := ⟨rfl, rfl, rfl, rfl⟩

theorem SameTables.trans (h : s.SameTables s') (h' : s'.SameTables s'') : s.SameTables s'' :=
  ⟨h'.jobs.trans h.jobs, h'.cases.trans h.cases, h'.evidences.trans h.evidences,
    h'.hooks.trans h.hooks⟩

/-- What is drawn from the supply is not in the tables. -/
theorem sameTables_supply (s : Store) (supply : Supply) :
    s.SameTables { s with supply := supply } :=
  ⟨rfl, rfl, rfl, rfl⟩

/-- A change of nothing leaves the tables. -/
theorem Changed.sameTables (h : s.Changed .idle s') : s.SameTables s' := by
  have rows : s'.jobs.rows = s.jobs.rows := h.rows.trans (JobChange.apply_idle _)
  have jobs : s'.jobs = s.jobs := by
    calc s'.jobs = ⟨s'.jobs.rows, s'.jobs.lost⟩ := rfl
      _ = s.jobs := by rw [rows, h.lost]
  exact ⟨jobs, h.cases, h.evidences, h.hooks⟩

/-! ## One thing after another -/

/-- What never changes the store is all or nothing. -/
theorem allOrNothing_of_unchanged {op : StoreM α} (h : (op s).2 = s) : AllOrNothing op s := by
  intro e s' run
  rw [run] at h
  exact h ▸ .refl _

/-- **First a look,** then something that leaves the tables as they are if it fails. -/
theorem AllOrNothing.after_look {op : StoreM α} {next : α → StoreM β}
    (look : s.SameTables (op s).2) (rest : ∀ a, AllOrNothing (next a) (op s).2) :
    AllOrNothing (op >>= next) s := by
  intro e s' run
  rw [run_bind] at run
  rcases first : op s with ⟨er | a, s₁⟩ <;> rw [first] at run look rest
  · obtain ⟨-, rfl⟩ := Prod.mk.inj run
    exact look
  · exact look.trans (rest a e s' run)

/-- **First something** that leaves the tables as they are if it fails, then what cannot fail. -/
theorem AllOrNothing.before {op : StoreM α} {next : α → StoreM β} (first : AllOrNothing op s)
    (rest : ∀ a s', op s = (.ok a, s') → ∃ b, (next a s').1 = .ok b) :
    AllOrNothing (op >>= next) s := by
  intro e s' run
  rw [run_bind] at run
  rcases done : op s with ⟨er | a, s₁⟩ <;> rw [done] at run
  · obtain ⟨-, rfl⟩ := Prod.mk.inj run
    exact first er s₁ done
  · obtain ⟨b, ok⟩ := rest a s₁ done
    rw [show next a s₁ = (.error e, s') from run] at ok
    simp at ok

/-- The answer may be worked on. -/
theorem AllOrNothing.map {op : StoreM α} (h : AllOrNothing op s) (f : α → β) :
    AllOrNothing (f <$> op) s := by
  rw [map_eq_pure_bind]
  exact h.before fun a s' _ => ⟨f a, rfl⟩

/-- What looks at some rows and answers leaves everything as it is. -/
theorem read_unchanged {rows : StoreM (List α)} {answer : List α → Except Error β}
    (first : (rows s).2 = s) :
    ((do let l ← rows; liftM (answer l) : StoreM β) s).2 = s :=
  bind_unchanged first fun l => congrArg Prod.snd (run_lift (answer l) s)

theorem jobRows_unchanged (s : Store) : (jobRows s).2 = s := by
  rw [run_jobRows]
  split <;> rfl

theorem getJob_unchanged (id : JobId) (s : Store) : (getJob id s).2 = s := by
  refine bind_unchanged (jobRows_unchanged s) fun rows => ?_
  cases rows.find? fun r => r.id == id with
  | none => rfl
  | some r => exact congrArg Prod.snd (run_lift _ s)

theorem listJobs_unchanged (evidenceId : String) (s : Store) : (listJobs evidenceId s).2 = s :=
  read_unchanged (jobRows_unchanged s)

theorem listJobsByStatus_unchanged (status? : Option JobStatus) (limit : Int) (s : Store) :
    (listJobsByStatus status? limit s).2 = s :=
  read_unchanged (jobRows_unchanged s)

theorem findJobs_unchanged (front : String) (limit : Int) (s : Store) :
    (findJobs front limit s).2 = s := by
  unfold findJobs
  split
  · rfl
  · exact read_unchanged (jobRows_unchanged s)

/-! ## The operations that write -/

/-- A report fails before it writes. -/
theorem allOrNothing_ack (id : JobId) (status : JobStatus) (error : String) (s : Store) :
    AllOrNothing (ack id status error) s := by
  intro e s' run
  obtain ⟨ch, changed, ⟨rfl, -⟩ | ⟨kept, now, -, answer⟩⟩ := ack_changed run
  · exact changed.sameTables
  · simp at answer

/-- Queueing fails before it writes: a row that was just made can be read. -/
theorem allOrNothing_enqueue (server : InstanceToken) (caseId evidenceId moduleName : String)
    (s : Store) : AllOrNothing (enqueue server caseId evidenceId moduleName) s := by
  intro e s' run
  obtain ⟨er, supply, -, -, failed⟩ | ⟨row, rfl, -, -, queued⟩ :=
    enqueue_cases server caseId evidenceId moduleName s
  · obtain ⟨-, rfl⟩ := Prod.mk.inj (failed.symm.trans run)
    exact sameTables_supply s supply
  · obtain ⟨answer, -⟩ := Prod.mk.inj (queued.symm.trans run)
    simp [JobRow.read, JobRow.job?, JobRow.scheduled] at answer

/-- What looks at a table and then writes without fail leaves the tables as they are if it fails. -/
theorem allOrNothing_modify {rows : StoreM (List α)} {f : List α → Store → Store}
    (first : (rows s).2 = s) :
    AllOrNothing (do let l ← rows; modify (f l) : StoreM Unit) s := by
  refine AllOrNothing.after_look (by rw [first]; exact .refl s) fun l e s' run => ?_
  obtain ⟨answer, -⟩ := Prod.mk.inj run
  simp at answer

/-- A case is saved or nothing is. -/
theorem allOrNothing_saveCase (c : Case) (s : Store) : AllOrNothing (saveCase c) s :=
  allOrNothing_modify (caseRows_unchanged s)

/-- A hook is saved or nothing is. -/
theorem allOrNothing_saveHook (h : Hook) (s : Store) : AllOrNothing (saveHook h) s :=
  allOrNothing_modify (hookRows_unchanged s)

/-- An item is saved or nothing is. -/
theorem allOrNothing_saveEvidence (e : Evidence) (s : Store) : AllOrNothing (saveEvidence e) s := by
  intro er s' run
  obtain ⟨er', failed⟩ | ⟨-, rows, saved, -⟩ := saveEvidence_cases e s
  · obtain ⟨-, rfl⟩ := Prod.mk.inj (failed.symm.trans run)
    exact .refl s
  · obtain ⟨answer, -⟩ := Prod.mk.inj (saved.symm.trans run)
    simp at answer

/-- A hook is deleted or nothing is. -/
theorem allOrNothing_deleteHook (id : String) (s : Store) : AllOrNothing (deleteHook id) s := by
  intro e s' run
  obtain ⟨er, failed⟩ | ⟨-, deleted⟩ := deleteHook_cases id s
  · obtain ⟨-, rfl⟩ := Prod.mk.inj (failed.symm.trans run)
    exact .refl s
  · obtain ⟨answer, -⟩ := Prod.mk.inj (deleted.symm.trans run)
    simp at answer

/-! ## Stores that never refuse a job -/

/-- A store without rows is ready. -/
theorem ready_empty {supply : Supply} (fresh : supply.Fresh) : Ready { supply := supply } :=
  ⟨fresh, List.nodup_nil, fun _ hr => absurd hr List.not_mem_nil,
    fun _ hr => absurd hr List.not_mem_nil, ⟨rfl, rfl, rfl, rfl⟩⟩

/-- Names and times may be drawn. -/
theorem Ready.supply (h : s.Ready) {supply : Supply} (used : s.supply.Used supply) :
    Ready { s with supply := supply } :=
  ⟨used.fresh h.fresh, h.keyed, fun r hr => used.drawn (h.drawn r hr), h.readable,
    ⟨h.there.jobs, h.there.cases, h.there.evidences, h.there.hooks⟩⟩

/-- A change of the job table keeps a store ready if what comes in bears a name of the supply. -/
theorem Ready.changed {ch : JobChange} (h : s.Ready) (changed : s.Changed ch s')
    (named : ∀ r ∈ ch.added, s'.supply.Drawn r.id) : s'.Ready := by
  refine ⟨changed.supply.fresh h.fresh, changed.keyed h.keyed, fun r hr => ?_, fun r hr => ?_,
    ⟨?_, ?_, ?_, ?_⟩⟩
  · rw [changed.rows] at hr
    obtain ⟨old, held, rfl⟩ | new := JobChange.mem_apply.1 hr
    · rw [JobChange.onRow_id]
      exact changed.supply.drawn (h.drawn old held)
    · exact named r new
  · rw [changed.hooks] at hr
    exact h.readable r hr
  · rw [changed.lost, h.there.jobs]
  · rw [changed.cases, h.there.cases]
  · rw [changed.evidences, h.there.evidences]
  · rw [changed.hooks, h.there.hooks]

/-- A change by which no job comes in keeps a store ready. -/
theorem Ready.moved (h : s.Ready) (moved : s.Moved s') : s'.Ready := by
  obtain ⟨ch, changed, none⟩ := moved
  exact h.changed changed fun r hr => absurd (none ▸ hr) List.not_mem_nil

/-- The next name is free. -/
theorem Ready.next_free (h : s.Ready) : s.supply.next.1 ∉ s.jobs.rows.map JobRow.id := by
  intro taken
  obtain ⟨r, hr, same⟩ := List.mem_map.1 taken
  exact h.fresh.not_drawn_next (same ▸ h.drawn r hr)

/-- **A job is never refused,** if its module has a well-formed name: a waiting row goes to the end
of the table, and the job is read off it. -/
theorem Ready.queues (h : s.Ready) {moduleName : String}
    (named : checkModuleName moduleName = .ok ()) (server : InstanceToken)
    (caseId evidenceId : String) :
    ∃ id now job s', enqueue server caseId evidenceId moduleName s = (.ok job, s') ∧
      (JobRow.scheduled id caseId evidenceId moduleName server now).job? = some job ∧
      s.Changed (.queue (.scheduled id caseId evidenceId moduleName server now)) s' ∧
      s'.Ready := by
  obtain ⟨e, -, -, refused, -⟩ | ⟨row, rfl, there, new, run⟩ :=
    enqueue_cases server caseId evidenceId moduleName s
  · obtain unnamed | lost | taken := refused
    · simp [named] at unnamed
    · simp [h.there.jobs] at lost
    · exact absurd taken h.next_free
  · refine ⟨_, _, _, _, run, rfl, changed_queue there new,
      h.changed (changed_queue there new) fun r hr => ?_⟩
    obtain rfl := List.mem_singleton.1 hr
    exact (Supply.used_now s.supply.next.2).drawn (Supply.drawn_next s.supply)

/-- **A ready store takes every job** for a module with a well-formed name, and stays ready. -/
theorem Ready.enqueue (h : s.Ready) {moduleName : String}
    (named : checkModuleName moduleName = .ok ()) (server : InstanceToken)
    (caseId evidenceId : String) :
    ∃ job s', enqueue server caseId evidenceId moduleName s = (.ok job, s') ∧ s'.Ready := by
  obtain ⟨-, -, job, s', queued, -, -, ready⟩ := h.queues named server caseId evidenceId
  exact ⟨job, s', queued, ready⟩

/-- What is saved in the other tables keeps a store ready if hooks can still be read. -/
theorem Ready.aside (h : s.Ready) (aside : s.Aside s')
    (readable : ∀ r ∈ s'.hooks.rows, r ∈ s.hooks.rows ∨ ∃ hook, r = .ofHook hook)
    (there : s'.InReach) : s'.Ready := by
  refine ⟨aside.supply.fresh h.fresh, ?_, fun r hr => ?_, fun r hr => ?_, there⟩
  · rw [aside.jobs]
    exact h.keyed
  · rw [aside.jobs] at hr
    exact aside.supply.drawn (h.drawn r hr)
  · obtain old | ⟨hook, rfl⟩ := readable r hr
    · exact h.readable r old
    · exact ⟨hook, HookRow.read_ofHook hook⟩

/-- A case that is saved leaves the store ready. -/
theorem Ready.saveCase (h : s.Ready) (c : Case) : (saveCase c s).2.Ready := by
  obtain ⟨e, run⟩ | ⟨-, run⟩ := saveCase_cases c s
  · rw [run]
    exact h
  · refine h.aside (saveCase_aside c s) (fun r hr => ?_) ?_
    · rw [run] at hr
      exact .inl hr
    · rw [run]
      exact ⟨h.there.jobs, rfl, h.there.evidences, h.there.hooks⟩

/-- An item that is saved leaves the store ready. -/
theorem Ready.saveEvidence (h : s.Ready) (e : Evidence) : (saveEvidence e s).2.Ready := by
  obtain ⟨er, run⟩ | ⟨-, rows, run, -⟩ := saveEvidence_cases e s
  · rw [run]
    exact h
  · refine h.aside (saveEvidence_aside e s) (fun r hr => ?_) ?_
    · rw [run] at hr
      exact .inl hr
    · rw [run]
      exact ⟨h.there.jobs, h.there.cases, rfl, h.there.hooks⟩

/-- A hook that is saved leaves the store ready. -/
theorem Ready.saveHook (h : s.Ready) (hook : Hook) : (saveHook hook s).2.Ready := by
  obtain ⟨e, run⟩ | ⟨-, run⟩ := saveHook_cases hook s
  · rw [run]
    exact h
  · refine h.aside (saveHook_aside hook s) (fun r hr => ?_) ?_
    · rw [run] at hr
      dsimp only at hr
      unfold upsert at hr
      split at hr
      · obtain ⟨old, held, rfl⟩ := List.mem_map.1 hr
        by_cases same : old.id = hook.id
        · exact .inr ⟨hook, by simp [same]⟩
        · exact .inl (by simpa [same] using held)
      · obtain old | new := List.mem_append.1 hr
        · exact .inl old
        · exact .inr ⟨hook, List.mem_singleton.1 new⟩
    · rw [run]
      exact ⟨h.there.jobs, h.there.cases, h.there.evidences, rfl⟩

/-- A hook that is deleted leaves the store ready. -/
theorem Ready.deleteHook (h : s.Ready) (id : String) : (deleteHook id s).2.Ready := by
  obtain ⟨e, run⟩ | ⟨-, run⟩ := deleteHook_cases id s
  · rw [run]
    exact h
  · refine h.aside (deleteHook_aside id s) (fun r hr => ?_) ?_
    · rw [run] at hr
      exact .inl (List.mem_of_mem_filter hr)
    · rw [run]
      exact ⟨h.there.jobs, h.there.cases, h.there.evidences, rfl⟩

/-! ## Hooks can be listed -/

/-- The hooks of a ready store can be listed. -/
theorem Ready.listHooks (h : s.Ready) : ∃ hooks, listHooks s = (.ok hooks, s) := by
  obtain ⟨hooks, read⟩ := readRows_ok fun r hr => h.readable r ((perm_sortByName _).mem_iff.1 hr)
  exact ⟨hooks, by simp [Store.listHooks, h.there.hooks, read]⟩

end Store
end Casework
