/-
# The latest outcome of every module

For an item of evidence a server lists the modules that apply to it, each with the outcome of its
latest job there.

| of the list | comes from |
| --- | --- |
| the entries | the registry: its modules that support the stored item, by name |
| status and error of an entry | the job table: the last row of the module on the item |
| no status, no error | no such row |

Which job is the latest is said without the table.  A job is `QueuedBefore` another one if at some
time of the run it was on record and the other was not.  That the last row is the latest job rests
on the order of the table: a turn changes rows in their places and adds one at most, at the end
(`turn_changes`), so what stands behind was queued later (`pairwise_queuedBefore`), whatever was
claimed, given back or finished in between.  That every entry can be read rests on the rows, whose
time stamps no turn makes unreadable (`readable_run`).
-/

import Casework.Proofs.Dispatch.Scoping
import Casework.Proofs.Hook.Firing
import Casework.Proofs.Store.Items

namespace Casework

/-! ## The registry -/

namespace Registry

variable {r : Registry} {m : Module} {ms : List Module}

/-- The names ascend strictly. -/
def Ascends (ms : List Module) : Prop := ms.Pairwise fun a b => a.name < b.name

/-- A module with a new name finds its place in the order. -/
theorem ascends_insertInto (h : Ascends ms) (new : ∀ n ∈ ms, n.name ≠ m.name) :
    Ascends (insertInto m ms) := by
  induction ms with
  | nil => exact List.pairwise_singleton _ m
  | cons x ms ih =>
    obtain ⟨least, rest⟩ := List.pairwise_cons.1 h
    obtain ⟨other, others⟩ := List.forall_mem_cons.1 new
    rw [insertInto]
    split
    next first =>
      refine List.pairwise_cons.2 ⟨?_, h⟩
      rintro y (_ | ⟨_, behind⟩)
      · exact first
      · exact first.trans (least y behind)
    next notFirst =>
      refine List.pairwise_cons.2 ⟨fun y member => ?_, ih rest others⟩
      obtain rfl | behind := mem_insertInto member
      · exact lt_of_le_of_ne (not_lt.1 notFirst) other
      · exact least y behind

/-- A registry is kept in order. -/
theorem ascends_register (h : Ascends r.modules) {r' : Registry} (run : r.register m = .ok r') :
    Ascends r'.modules := by
  rw [register] at run
  cases named : checkModuleName m.name with
  | error e => simp [named] at run
  | ok u =>
    cases held : r.contains m.name with
    | true => simp [named, held] at run
    | false =>
      obtain rfl : ⟨insertInto m r.modules⟩ = r' := by simpa [named, held] using run
      exact ascends_insertInto h (by simpa [contains, find?] using held)

/-- A check leaves modules out and moves none. -/
theorem checked_sublist (ms : List Module) (host : Host) : (checked ms host).1.Sublist ms := by
  induction ms generalizing host with
  | nil => exact .slnil
  | cons x ms ih =>
    rw [checked]
    rcases x.check host with ⟨e | u, host'⟩
    · exact (ih host').cons x
    · exact (ih host').cons_cons x

/-- **The modules of a registry** are in the order of their names, each name once. -/
theorem Made.ascends (h : r.Made) : Ascends r.modules := by
  induction h with
  | empty => exact List.Pairwise.nil
  | register _ run ih => exact ascends_register ih run
  | available _ host ih => exact ih.sublist (checked_sublist _ host)

end Registry

/-! ## Rows that can be read -/

/-- A row can be read if both of its times can. -/
theorem JobRow.isSome_job? {r : JobRow} :
    r.job?.isSome = true ↔ r.createdAt?.isSome = true ∧ r.updatedAt?.isSome = true := by
  unfold JobRow.job?
  cases r.createdAt? <;> cases r.updatedAt? <;> simp

namespace JobChange

variable {ch : JobChange} {rows : List JobRow}

/-- A change leaves every row readable. -/
theorem readable_apply (allowed : ch.Allowed rows)
    (readable : ∀ r ∈ rows, r.job?.isSome = true) : ∀ r ∈ ch.apply rows, r.job?.isSome = true := by
  intro r' hr'
  obtain ⟨r, hr, rfl⟩ | new := mem_apply.1 hr'
  · have created := (JobRow.isSome_job?.1 (readable r hr)).1
    have rewritten := onRow_rewrites ch r
    generalize ch.onRow r = r' at rewritten ⊢
    cases rewritten with
    | stays => exact readable r hr
    | claimed => exact JobRow.isSome_job?.2 ⟨created, rfl⟩
    | finished => exact JobRow.isSome_job?.2 ⟨created, rfl⟩
    | released => exact JobRow.isSome_job?.2 ⟨created, rfl⟩
    | recovered => exact JobRow.isSome_job?.2 ⟨created, rfl⟩
  · obtain ⟨-, _, _, _, _, _, _, rfl⟩ := added_scheduled allowed new
    rfl

/-- A change adds one row at most. -/
theorem added_cases (ch : JobChange) : ch.added = [] ∨ ∃ row, ch.added = [row] := by
  cases ch with
  | queue row => exact .inr ⟨row, rfl⟩
  | _ => exact .inl rfl

end JobChange

/-- Rows that can be read are read. -/
theorem readRows_read {rows : List JobRow} (readable : ∀ r ∈ rows, r.job?.isSome = true) :
    readRows JobRow.read rows = .ok (rows.filterMap JobRow.job?) := by
  induction rows with
  | nil => rfl
  | cons r rows ih =>
    obtain ⟨first, rest⟩ := List.forall_mem_cons.1 readable
    obtain ⟨job, read⟩ := Option.isSome_iff_exists.1 first
    simp only [readRows, JobRow.read_eq_ok.2 read, ih rest, List.filterMap_cons_some read]

namespace Store

/-- The jobs on an item that can be read. -/
def jobsOn (s : Store) (evidenceId : String) : List Job :=
  (s.jobs.rows.filter fun r => r.evidenceId == evidenceId).filterMap JobRow.job?

/-- They are what is listed, if all can be read. -/
theorem run_listJobs {s : Store} (readable : ∀ r ∈ s.jobs.rows, r.job?.isSome = true)
    (evidenceId : String) : listJobs evidenceId s =
      (if s.jobs.lost then .error (lostTable .jobs) else .ok (s.jobsOn evidenceId), s) := by
  have read : readRows JobRow.read (s.jobs.rows.filter fun r => r.evidenceId == evidenceId) =
      .ok (s.jobsOn evidenceId) :=
    readRows_read fun r hr => readable r (List.mem_of_mem_filter hr)
  cases lost : s.jobs.lost <;> simp [listJobs, lost, read]

end Store

namespace Dispatch

/-! ## What an entry shows -/

/-- The entry of a module, for the row that its outcome is read from, if there is one. -/
def entry (m : Module) : Option JobRow → ModuleRun
  | some r => ⟨m.name, m.description, some r.status, r.error⟩
  | none => ⟨m.name, m.description, none, ""⟩

/-- Among jobs that are read from rows, the latest of a module is that of its last row. -/
theorem latestRun_filterMap {rows : List JobRow} (readable : ∀ r ∈ rows, r.job?.isSome = true)
    (m : Module) : Dispatcher.latestRun (rows.filterMap JobRow.job?) m =
      entry m (rows.reverse.find? fun r => r.moduleName == m.name) := by
  induction rows using List.reverseRecOn with
  | nil => rfl
  | append_singleton rows r ih =>
    obtain ⟨before, last⟩ := List.forall_mem_append.1 readable
    obtain ⟨job, read⟩ := Option.isSome_iff_exists.1 (last r (List.mem_singleton_self r))
    obtain ⟨-, -, -, moduleName, status, error⟩ := JobRow.of_job? read
    have earlier := ih before
    rw [Dispatcher.latestRun] at earlier
    rw [List.filterMap_append, List.filterMap_cons_some read, List.filterMap_nil,
      Dispatcher.latestRun, List.reverse_concat, List.reverse_concat, List.find?_cons,
      List.find?_cons, moduleName]
    by_cases own : r.moduleName = m.name
    · simp [own, entry, status, error]
    · simp only [beq_eq_false_iff_ne.2 own]
      exact earlier

/-! ## Turns and the job table -/

/-- What a request does to the job table is one change. -/
theorem next_changes (t : Errand) (s : Store) : ∃ ch : JobChange, ch.Allowed s.jobs.rows ∧
    (t.next s).2.jobs.rows = ch.apply s.jobs.rows := by
  have same {s' : Store} (h : s'.jobs.rows = s.jobs.rows) : ∃ ch : JobChange,
      ch.Allowed s.jobs.rows ∧ s'.jobs.rows = ch.apply s.jobs.rows :=
    ⟨.idle, trivial, by rw [h, JobChange.apply_idle]⟩
  -- whatever a request answers, the store is the one that its statement left
  have queue (server : InstanceToken) (caseId evidenceId moduleName : String)
      {next : Job → StoreM (Option Errand)} (rest : ∀ job s', (next job s').2 = s') :
      ∃ ch : JobChange, ch.Allowed s.jobs.rows ∧
        ((Store.enqueue server caseId evidenceId moduleName >>= next) s).2.jobs.rows =
          ch.apply s.jobs.rows := by
    rw [Store.run_bind]
    rcases queued : Store.enqueue server caseId evidenceId moduleName s with ⟨e | job, s'⟩
    · obtain ⟨ch, changed, -⟩ := Store.enqueue_changed queued
      exact ⟨ch, changed.allowed, changed.rows⟩
    · obtain ⟨ch, changed, -⟩ := Store.enqueue_changed queued
      refine ⟨ch, changed.allowed, ?_⟩
      dsimp only
      rw [rest job s', changed.rows]
  cases t with
  | push d wish => exact queue _ _ _ _ fun _ _ => rfl
  | save d e =>
    have aside := Store.saveEvidence_aside e s
    rw [Errand.next, Store.run_bind]
    rcases saved : Store.saveEvidence e s with ⟨er | u, s'⟩ <;> rw [saved] at aside <;>
      exact same (congrArg Table.rows aside.jobs)
  | look d e =>
    refine same (congrArg (fun s : Store => s.jobs.rows) ?_)
    exact Store.bind_unchanged (Store.listHooks_unchanged s) fun _ => rfl
  | queue d e hooks =>
    cases hooks with
    | nil => exact same rfl
    | cons h hooks => exact queue _ _ _ _ fun _ _ => rfl

namespace World

variable {w : World}

/-- **What a turn does to the job table is one change.** -/
theorem turn_changes (keyed : Keyed w.store.jobs.rows) (t : Turn) : ∃ ch : JobChange,
    ch.Allowed w.store.jobs.rows ∧ (w.turn t).store.jobs.rows = ch.apply w.store.jobs.rows := by
  have idle : ∃ ch : JobChange, ch.Allowed w.store.jobs.rows ∧
      w.store.jobs.rows = ch.apply w.store.jobs.rows :=
    ⟨.idle, trivial, (JobChange.apply_idle _).symm⟩
  have goes := turn_goes w t
  generalize w.turn t = w' at goes ⊢
  cases goes with
  | aside => exact idle
  | started settings =>
    obtain ⟨ch, changed, -⟩ :=
      Store.moved_releaseStaleJobs w.store.supply.next.1 (named w.store settings).store
    exact ⟨ch, changed.allowed, changed.rows⟩
  | attached => exact idle
  | @acted i a d s members member bare after servers =>
    obtain ⟨ch, allowed, rows, -⟩ := (act_effect (s := ⟨w.store, d⟩) keyed a).changed
    rw [after] at rows
    exact ⟨ch, allowed, rows⟩
  | begun => exact idle
  | @wentOn n t answer store errands member next requests =>
    obtain ⟨ch, allowed, rows⟩ := next_changes t w.store
    rw [next] at rows
    exact ⟨ch, allowed, rows⟩
  | reached table lost => cases table <;> exact idle

/-- All jobs of a run can be read at all times. -/
theorem readable_run (supply : Supply) (turns : List Turn) :
    ∀ r ∈ ((empty supply).run turns).store.jobs.rows, r.job?.isSome = true := by
  induction turns using List.reverseRecOn with
  | nil => exact fun r hr => absurd hr List.not_mem_nil
  | append_singleton turns t ih =>
    rw [run_append]
    have linked := ((linked_empty supply).run turns).2
    obtain ⟨ch, allowed, rows⟩ := turn_changes linked.store.keyed t
    change ∀ r ∈ (((empty supply).run turns).turn t).store.jobs.rows, r.job?.isSome = true
    rw [rows]
    exact JobChange.readable_apply allowed ih

/-- The ids of the jobs on record. -/
def jobIds (w : World) : List JobId := w.store.jobs.rows.map JobRow.id

/-- At some time of a run one job was on record, and the other one was not. -/
def QueuedBefore (supply : Supply) (turns : List Turn) (id id' : JobId) : Prop :=
  ∃ early late, turns = early ++ late ∧
    id ∈ ((empty supply).run early).jobIds ∧ id' ∉ ((empty supply).run early).jobIds

/-- What was queued before stays so. -/
theorem QueuedBefore.append {supply : Supply} {turns : List Turn} {id id' : JobId}
    (h : QueuedBefore supply turns id id') (more : List Turn) :
    QueuedBefore supply (turns ++ more) id id' := by
  obtain ⟨early, late, rfl, there, absent⟩ := h
  exact ⟨early, late ++ more, List.append_assoc .., there, absent⟩

/-- A turn puts the job that it queues behind the others. -/
theorem jobIds_turn (supply : Supply) (turns : List Turn) (t : Turn) : ∃ ch : JobChange,
    ch.Allowed ((empty supply).run turns).store.jobs.rows ∧
      ((empty supply).run (turns ++ [t])).jobIds =
        ((empty supply).run turns).jobIds ++ ch.added.map JobRow.id := by
  have linked := ((linked_empty supply).run turns).2
  obtain ⟨ch, allowed, rows⟩ := turn_changes linked.store.keyed t
  refine ⟨ch, allowed, ?_⟩
  rw [run_append, jobIds, jobIds, ← JobChange.map_id_apply, ← rows]
  rfl

/-- A job that is on record stays there. -/
theorem jobIds_subset (supply : Supply) (turns more : List Turn) :
    ((empty supply).run turns).jobIds ⊆ ((empty supply).run (turns ++ more)).jobIds := by
  induction more using List.reverseRecOn with
  | nil => exact fun id there => by rwa [List.append_nil]
  | append_singleton more t ih =>
    obtain ⟨ch, -, ids⟩ := jobIds_turn supply (turns ++ more) t
    rw [← List.append_assoc, ids]
    exact fun id there => List.mem_append_left _ (ih there)

/-- Two jobs are queued one before the other, not the other way round. -/
theorem QueuedBefore.asymm {supply : Supply} {turns : List Turn} {id id' : JobId}
    (h : QueuedBefore supply turns id id') : ¬QueuedBefore supply turns id' id := by
  rintro ⟨early', late', same, there', absent'⟩
  obtain ⟨early, late, rfl, there, absent⟩ := h
  obtain ⟨more, rfl, -⟩ | ⟨more, rfl, -⟩ := List.append_eq_append_iff.1 same
  · exact absent' (jobIds_subset supply early more there)
  · exact absent (jobIds_subset supply early' more there')

/-- **The table is in the order of queueing,** whatever became of the jobs. -/
theorem pairwise_queuedBefore (supply : Supply) (turns : List Turn) :
    ((empty supply).run turns).jobIds.Pairwise (QueuedBefore supply turns) := by
  induction turns using List.reverseRecOn with
  | nil => exact List.Pairwise.nil
  | append_singleton turns t ih =>
    obtain ⟨ch, allowed, ids⟩ := jobIds_turn supply turns t
    rw [ids, List.pairwise_append]
    refine ⟨ih.imp fun before => before.append [t], ?_, fun id old id' new => ?_⟩
    · obtain none | ⟨row, one⟩ := ch.added_cases
      · rw [none]
        exact List.Pairwise.nil
      · rw [one]
        exact List.pairwise_singleton _ row.id
    · obtain ⟨r, added, rfl⟩ := List.mem_map.1 new
      exact ⟨turns, [t], rfl, old, (JobChange.added_scheduled allowed added).1⟩

/-- The row is that of a job of a module on an item of a case. -/
def IsOn (caseId evidenceId moduleName : String) (r : JobRow) : Prop :=
  r.caseId = caseId ∧ r.evidenceId = evidenceId ∧ r.moduleName = moduleName

/-- The row is that of the job of a module on an item that was queued last. -/
structure IsLatest (supply : Supply) (turns : List Turn) (caseId evidenceId moduleName : String)
    (r : JobRow) : Prop where
  mem : r ∈ ((empty supply).run turns).store.jobs.rows
  on : IsOn caseId evidenceId moduleName r
  last : ∀ x ∈ ((empty supply).run turns).store.jobs.rows, IsOn caseId evidenceId moduleName x →
    x = r ∨ QueuedBefore supply turns x.id r.id

/-- What is shown of a module: the outcome of its latest job on the item, or that there is none. -/
inductive Shows (supply : Supply) (turns : List Turn) (caseId evidenceId : String) (m : Module) :
    ModuleRun → Prop where
  | outcome {r : JobRow} (latest : IsLatest supply turns caseId evidenceId m.name r) :
      Shows supply turns caseId evidenceId m ⟨m.name, m.description, some r.status, r.error⟩
  | never (noJob : ∀ x ∈ ((empty supply).run turns).store.jobs.rows,
      ¬IsOn caseId evidenceId m.name x) :
      Shows supply turns caseId evidenceId m ⟨m.name, m.description, none, ""⟩

/-- The last row of a module on an item is that of its latest job. -/
theorem shows_latestRun (supply : Supply) (turns : List Turn) {caseId evidenceId : String}
    (filed : ((empty supply).run turns).store.Filed caseId evidenceId) (m : Module) :
    Shows supply turns caseId evidenceId m
      (Dispatcher.latestRun (((empty supply).run turns).store.jobsOn evidenceId) m) := by
  have readable := readable_run supply turns
  rw [Store.jobsOn, latestRun_filterMap fun r hr => readable r (List.mem_of_mem_filter hr)]
  have linked := ((linked_empty supply).run turns).2.store
  have order := pairwise_queuedBefore supply turns
  rw [jobIds] at order
  generalize rows : ((empty supply).run turns).store.jobs.rows = table at order
  have on {r : JobRow} (hr : r ∈ table) : IsOn caseId evidenceId m.name r ↔
      r.evidenceId = evidenceId ∧ r.moduleName = m.name := by
    constructor
    · exact And.right
    · exact fun h => ⟨linked.caseId_eq filed (rows ▸ hr) h.1, h⟩
  have scan : (table.filter fun r => r.evidenceId == evidenceId).reverse.find?
      (fun r => r.moduleName == m.name) =
      table.reverse.find? fun r => r.evidenceId == evidenceId && r.moduleName == m.name := by
    simp [← List.filter_reverse, List.find?_filter, beq_eq_decide]
  rw [scan]
  cases found : table.reverse.find? fun r =>
      r.evidenceId == evidenceId && r.moduleName == m.name with
  | none =>
    refine .never fun x hx own => ?_
    rw [rows] at hx
    have other := List.find?_eq_none.1 found x (List.mem_reverse.2 hx)
    obtain ⟨item, name⟩ := (on hx).1 own
    simp [item, name] at other
  | some r =>
    obtain ⟨holds, behind, front, split, others⟩ := List.find?_eq_some_iff_append.1 found
    have split : table = front.reverse ++ r :: behind.reverse := by
      simpa using congrArg List.reverse split
    have member : r ∈ table := by simp [split]
    refine .outcome ⟨rows ▸ member, (on member).2 (by simpa using holds), fun x hx own => ?_⟩
    rw [rows] at hx
    rw [split, List.mem_append, List.mem_cons] at hx
    obtain before | rfl | after := hx
    · rw [split, List.map_append, List.map_cons, List.pairwise_append] at order
      exact .inr (order.2.2 _ (List.mem_map_of_mem before) _ List.mem_cons_self)
    · exact .inl rfl
    · have other := others x (List.mem_reverse.1 after)
      obtain ⟨-, item, name⟩ := own
      simp [item, name] at other

/-- There is one outcome to show of a module. -/
theorem Shows.unique {supply : Supply} {turns : List Turn} {caseId evidenceId : String}
    {m : Module} {run run' : ModuleRun} (h : Shows supply turns caseId evidenceId m run)
    (h' : Shows supply turns caseId evidenceId m run') : run = run' := by
  cases h with
  | outcome latest =>
    cases h' with
    | outcome latest' =>
      obtain rfl | before := latest'.last _ latest.mem latest.on
      · rfl
      · obtain rfl | after := latest.last _ latest'.mem latest'.on
        · rfl
        · exact absurd after before.asymm
    | never noJob => exact absurd latest.on (noJob _ latest.mem)
  | never noJob =>
    cases h' with
    | outcome latest => exact absurd latest.on (noJob _ latest.mem)
    | never => rfl

end World

/-! ## The main statement -/

/-- The run that is shown of a module bears its name. -/
theorem latestRun_name (jobs : List Job) (m : Module) :
    (Dispatcher.latestRun jobs m).name = m.name := by
  rw [Dispatcher.latestRun]
  split <;> rfl

/-- **Every module with its latest outcome.**  Servers, workers, clients and operators do what they
like on a store that was empty, with restarts and tables out of reach.  If the tables of items and
jobs are in reach at last, a server with a registry of modules is asked for the modules of an item
of a case:

* if the item is one of the case's, the modules are listed by name, each name once; listed are just
  those that support the stored item, each with status and error of the job on it that was queued
  last, or with neither if there was none;
* it is not found just when the case has no such item. -/
theorem latest_outcomes_shown (supply : Supply) (turns : List Turn) {d : Dispatcher}
    (made : d.registry.Made) (caseId evidenceId : String) :
    let s := ((World.empty supply).run turns).store
    s.evidences.lost = false →
      (s.jobs.lost = false → ∀ e ∈ s.evidences.rows, e.id = evidenceId → e.caseId = caseId →
        ∃ runs, d.runnableModules caseId evidenceId s = (.ok runs, s) ∧
          runs.Pairwise (fun a b => a.name < b.name) ∧
          ∀ run, run ∈ runs ↔ ∃ m ∈ d.registry.modules, m.supports e = true ∧
            World.Shows supply turns caseId evidenceId m run) ∧
      ((∃ missing, (d.runnableModules caseId evidenceId s).1 = .error (.notFound missing)) ↔
        ∀ e ∈ s.evidences.rows, e.id = evidenceId → e.caseId ≠ caseId) := by
  intro s there
  have linked : s.Linked := ((World.linked_empty supply).run turns).2.store
  obtain ⟨found, missing⟩ := Store.run_getEvidence there linked.single caseId evidenceId
  have listed := Store.run_listJobs (s := s) (World.readable_run supply turns) evidenceId
  have run {e : Evidence} (he : e ∈ s.evidences.rows) (id : e.id = evidenceId)
      (case : e.caseId = caseId) : d.runnableModules caseId evidenceId s =
        (if s.jobs.lost then .error (Store.lostTable .jobs)
          else .ok ((d.registry.supported e).map (Dispatcher.latestRun (s.jobsOn evidenceId))),
          s) := by
    simp only [Dispatcher.runnableModules, Store.run_bind, (found e).2 ⟨he, id, case⟩, listed]
    cases s.jobs.lost <;> rfl
  refine ⟨fun jobs e he id case => ⟨_, by rw [run he id case, jobs]; rfl, ?_, fun run => ?_⟩, ?_⟩
  · rw [List.pairwise_map]
    simp only [latestRun_name]
    exact made.ascends.sublist List.filter_sublist
  · have shown := World.shows_latestRun supply turns ⟨e, he, id, case⟩
    rw [List.mem_map]
    constructor
    · rintro ⟨m, member, rfl⟩
      obtain ⟨held, supports⟩ := List.mem_filter.1 member
      exact ⟨m, held, supports, shown m⟩
    · rintro ⟨m, held, supports, shows⟩
      exact ⟨m, List.mem_filter.2 ⟨held, supports⟩, (shown m).unique shows⟩
  · constructor
    · rintro ⟨what, absent⟩ e he id case
      rw [run he id case] at absent
      cases lost : s.jobs.lost <;> simp [lost, Store.lostTable] at absent
    · intro other
      exact ⟨"evidence " ++ evidenceId ++ " in case " ++ caseId, by
        simp only [Dispatcher.runnableModules, Store.run_bind, missing other]⟩

/-- At the end of the workday the one module of its server is listed for the item, with the outcome
of the job that was pushed, which waits, and not with that of the job before it, which runs. -/
theorem latest_outcomes_shown_workday :
    let s := ((World.empty lone.supply).run workday).store
    let d : Dispatcher := { token := "", registry := ⟨[hayabusa]⟩ }
    d.registry.Made ∧ s.evidences.lost = false ∧ s.jobs.lost = false ∧
      loneItem ∈ s.evidences.rows ∧ s.jobs.rows.map JobRow.status = [.running, .scheduled] ∧
      ∃ runs, d.runnableModules "case" "item" s = (.ok runs, s) ∧
        runs.map ModuleRun.status? = [some .scheduled] ∧
        ∀ run ∈ runs, World.Shows lone.supply workday "case" "item" hayabusa run := by
  intro s d
  have registered : ({} : Registry).register hayabusa = .ok d.registry := rfl
  have made : d.registry.Made := .register .empty registered
  have items : s.evidences.lost = false := by decide +kernel
  have jobs : s.jobs.lost = false := by decide +kernel
  have held : loneItem ∈ s.evidences.rows := by decide +kernel
  obtain ⟨listed, -⟩ := latest_outcomes_shown lone.supply workday made "case" "item" items
  obtain ⟨runs, ran, -, shown⟩ := listed jobs loneItem held rfl rfl
  have status : (d.runnableModules "case" "item" s).1.toOption.map (List.map ModuleRun.status?) =
      some [some .scheduled] := by decide +kernel
  rw [ran] at status
  refine ⟨made, items, jobs, held, by decide +kernel, runs, ran, Option.some.inj status, ?_⟩
  intro run member
  obtain ⟨m, only, -, shows⟩ := (shown run).1 member
  obtain rfl := List.mem_singleton.1 only
  exact shows

end Dispatch
end Casework
