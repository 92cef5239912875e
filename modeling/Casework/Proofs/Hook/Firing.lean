/-
# Hooks that fire queue their jobs

Evidence is saved before its hooks are looked at, so registering it leaves things half done if
queueing a job for a hook can fail.  It cannot: a hook fires only for a module that is registered,
registered modules have well-formed names (`Registry.WellNamed`), however the registry came about
(`Registry.Made`), and a ready store takes every job of a module with such a name: each hook that
fires queues its job (`Queues`), behind those that are there (`Store.Queued`, `onEvidenceAdded_ok`).

Hence `allOrNothing_registerEvidence`, the like of which holds of the dispatcher's other operations
by the order of their statements.
-/

import Casework.Proofs.Store.Failures
import Casework.Store.Snapshot
import Casework.Dispatch.Dispatcher
import Casework.Module.Tool

namespace Casework

/-! ## Names of registered modules -/

/-- Every module has a well-formed name. -/
def Registry.WellNamed (r : Registry) : Prop := ∀ m ∈ r.modules, checkModuleName m.name = .ok ()

namespace Registry

variable {r : Registry}

/-- What is there after a module was put in its place was there before, or is the module. -/
theorem mem_insertInto {m x : Module} {ms : List Module} (h : m ∈ insertInto x ms) :
    m = x ∨ m ∈ ms := by
  induction ms with
  | nil => exact .inl (List.mem_singleton.1 h)
  | cons y ms ih =>
    rw [insertInto] at h
    split at h
    · exact List.mem_cons.1 h
    · obtain rfl | h := List.mem_cons.1 h
      · exact .inr List.mem_cons_self
      · exact (ih h).imp_right (List.mem_cons_of_mem y)

/-- Names stay well-formed when a module with a well-formed one is put in. -/
theorem wellNamed_insertInto {m : Module} (h : r.WellNamed)
    (named : checkModuleName m.name = .ok ()) : WellNamed ⟨insertInto m r.modules⟩ := by
  intro x hx
  obtain rfl | old := mem_insertInto hx
  · exact named
  · exact h x old

/-- Names stay well-formed when a module is registered. -/
theorem wellNamed_register (h : r.WellNamed) {m : Module} {r' : Registry}
    (run : r.register m = .ok r') : r'.WellNamed := by
  rw [register] at run
  cases named : checkModuleName m.name with
  | error e => simp [named] at run
  | ok u =>
    cases held : r.contains m.name with
    | true => simp [named, held] at run
    | false =>
      obtain rfl : ⟨insertInto m r.modules⟩ = r' := by simpa [named, held] using run
      exact wellNamed_insertInto h named

/-- **A registry that was filled by registering** has well-formed names only. -/
theorem wellNamed_registerAll (h : r.WellNamed) {ms : List Module} {r' : Registry}
    (run : r.registerAll ms = .ok r') : r'.WellNamed := by
  induction ms generalizing r with
  | nil =>
    obtain rfl : r = r' := Except.ok.inj run
    exact h
  | cons m ms ih =>
    rw [registerAll] at run
    cases first : r.register m with
    | error e => simp [first] at run
    | ok r₁ =>
      rw [first] at run
      exact ih (wellNamed_register h first) run

/-- Modules that the host cannot run may be left out. -/
theorem wellNamed_available (h : r.WellNamed) (host : Host) : (r.available host).1.WellNamed := by
  have kept (ms : List Module) (host : Host) : ∀ m ∈ (checked ms host).1, m ∈ ms := by
    induction ms generalizing host with
    | nil => exact fun m hm => hm
    | cons x ms ih =>
      intro m hm
      rw [checked] at hm
      rcases check : x.check host with ⟨result, host'⟩
      rw [check] at hm
      cases result with
      | ok u =>
        obtain rfl | hm := List.mem_cons.1 hm
        · exact List.mem_cons_self
        · exact List.mem_cons_of_mem x (ih host' m hm)
      | error e => exact List.mem_cons_of_mem x (ih host' m hm)
  exact fun m hm => h m (kept r.modules host m hm)

/-- A registry as it comes about: modules are registered, each after the other, and those that the
host cannot run may be left out. -/
inductive Made : Registry → Prop where
  | empty : Made {}
  | register {r r' : Registry} {m : Module} (before : Made r) (run : r.register m = .ok r') :
      Made r'
  | available {r : Registry} (before : Made r) (host : Host) : Made (r.available host).1

/-- **No name gets into a registry** but well-formed ones. -/
theorem Made.wellNamed (h : r.Made) : r.WellNamed := by
  induction h with
  | empty => exact fun m hm => absurd hm List.not_mem_nil
  | register _ run ih => exact wellNamed_register ih run
  | available _ host ih => exact wellNamed_available ih host

/-- A registry that modules were registered in one by one has come about. -/
theorem Made.registerAll (h : r.Made) {ms : List Module} {r' : Registry}
    (run : r.registerAll ms = .ok r') : r'.Made := by
  induction ms generalizing r with
  | nil =>
    obtain rfl : r = r' := Except.ok.inj run
    exact h
  | cons m ms ih =>
    rw [Registry.registerAll] at run
    cases first : r.register m with
    | error e => simp [first] at run
    | ok r₁ =>
      rw [first] at run
      exact ih (h.register first) run

/-- The tool modules register without fail. -/
theorem builtin_catalog : builtin {} "." = .ok catalog := rfl

/-- The catalog of all modules has come about. -/
theorem made_catalog : catalog.Made := Made.empty.registerAll builtin_catalog

/-- The registry of the tool modules has well-formed names. -/
theorem wellNamed_catalog : catalog.WellNamed := made_catalog.wellNamed

/-- A name that the registry has is well-formed. -/
theorem WellNamed.of_contains (h : r.WellNamed) {name : String}
    (held : r.contains name = true) : checkModuleName name = .ok () := by
  obtain ⟨m, found⟩ := Option.isSome_iff_exists.1 held
  obtain rfl : m.name = name := by simpa using List.find?_some found
  exact h m (List.mem_of_find?_eq_some found)

end Registry

/-! ## Jobs at the end of the table -/

/-- A row that can be read is the row of its job. -/
theorem JobRow.eq_ofJob {r : JobRow} {job : Job} (read : r.job? = some job) :
    r = JobRow.ofJob job := by
  unfold JobRow.job? at read
  split at read
  next created updated there there' =>
    obtain rfl := Option.some.inj read
    rw [JobRow.ofJob, ← there, ← there']
  next => cases read

/-- The store with these jobs at the end of its job table. -/
structure Store.Queued (s : Store) (jobs : List Job) (s' : Store) : Prop where
  rows : s'.jobs.rows = s.jobs.rows ++ jobs.map JobRow.ofJob
  lost : s'.jobs.lost = s.jobs.lost
  cases : s'.cases = s.cases
  evidences : s'.evidences = s.evidences
  hooks : s'.hooks = s.hooks

open Store

/-- A change that queues a row queues its job. -/
theorem queued_of_changed {s s' : Store} {row : JobRow} {job : Job}
    (changed : s.Changed (.queue row) s') (read : row.job? = some job) : s.Queued [job] s' := by
  refine ⟨?_, changed.lost, changed.cases, changed.evidences, changed.hooks⟩
  rw [changed.rows, JobChange.apply_queue, JobRow.eq_ofJob read]
  rfl

theorem Store.Queued.refl (s : Store) : s.Queued [] s :=
  ⟨(List.append_nil _).symm, rfl, rfl, rfl, rfl⟩

theorem Store.Queued.trans {s s' s'' : Store} {jobs more : List Job} (h : s.Queued jobs s')
    (h' : s'.Queued more s'') : s.Queued (jobs ++ more) s'' := by
  refine ⟨?_, h'.lost.trans h.lost, h'.cases.trans h.cases, h'.evidences.trans h.evidences,
    h'.hooks.trans h.hooks⟩
  rw [h'.rows, h.rows, List.map_append, List.append_assoc]

/-! ## Hooks -/

namespace Hook

variable {registry : Registry} {rules : RuleEngine} {s : Store}

/-- The job that a hook queues for an item: it waits for the hook's module. -/
structure Queues (server : InstanceToken) (e : Evidence) (h : Hook) (job : Job) : Prop where
  caseId : job.caseId = e.caseId
  evidenceId : job.evidenceId = e.id
  moduleName : job.moduleName = h.module
  status : job.status = .scheduled
  error : job.error = ""
  serverToken : job.serverToken = server
  workerToken : job.workerToken = ""

/-- The row that is made for a hook holds the job that the hook queues. -/
theorem queues_of_job? {server : InstanceToken} {e : Evidence} {h : Hook} {job : Job} {id : JobId}
    {now : Timestamp}
    (read : (JobRow.scheduled id e.caseId e.id h.module server now).job? = some job) :
    Queues server e h job := by
  obtain rfl := Option.some.inj read
  exact ⟨rfl, rfl, rfl, rfl, rfl, rfl, rfl⟩

/-- A hook that fires names a registered module. -/
theorem contains_of_fires {e : Evidence} {h : Hook} (fires : Hook.fires registry rules e h = true) :
    registry.contains h.module = true := by
  unfold Hook.fires at fires
  simp only [Bool.and_eq_true] at fires
  exact fires.1.2

/-- **Jobs of well-formed modules are all queued,** one for each hook, in their order. -/
theorem enqueueAll_ok (h : s.Ready) (server : InstanceToken) (e : Evidence) {hooks : List Hook}
    (named : ∀ hook ∈ hooks, checkModuleName hook.module = .ok ()) :
    ∃ jobs s', enqueueAll server e hooks s = (.ok jobs, s') ∧
      List.Forall₂ (Queues server e) hooks jobs ∧ s.Queued jobs s' ∧ s'.Ready := by
  induction hooks generalizing s with
  | nil => exact ⟨[], s, rfl, .nil, .refl s, h⟩
  | cons hook hooks ih =>
    obtain ⟨first, rest⟩ := List.forall_mem_cons.1 named
    obtain ⟨id, now, job, s₁, queued, read, changed, ready⟩ :=
      h.queues first server e.caseId e.id
    obtain ⟨jobs, s₂, others, asked, added, ready⟩ := ih ready rest
    refine ⟨job :: jobs, s₂, ?_, .cons (queues_of_job? read) asked, ?_, ready⟩
    · simp only [enqueueAll, run_bind, queued, others, run_pure]
    · exact (queued_of_changed changed read).trans added

/-- **Evidence fires its hooks** without fail: each that fires queues its job. -/
theorem onEvidenceAdded_ok (h : s.Ready) (named : registry.WellNamed) (server : InstanceToken)
    (rules : RuleEngine) (e : Evidence) :
    ∃ hooks jobs s', Store.listHooks s = (.ok hooks, s) ∧
      onEvidenceAdded server registry rules e s = (.ok jobs, s') ∧
      List.Forall₂ (Queues server e) (hooks.filter (fires registry rules e)) jobs ∧
      s.Queued jobs s' ∧ s'.Ready := by
  obtain ⟨hooks, listed⟩ := h.listHooks
  have wellNamed : ∀ hook ∈ hooks.filter (Hook.fires registry rules e),
      checkModuleName hook.module = .ok () := by
    intro hook mem
    exact named.of_contains (contains_of_fires (List.mem_filter.1 mem).2)
  obtain ⟨jobs, s', queued, asked, added, ready⟩ := enqueueAll_ok h server e wellNamed
  refine ⟨hooks, jobs, s', listed, ?_, asked, added, ready⟩
  simp only [onEvidenceAdded, run_bind, listed, queued]

end Hook

/-! ## Requests to the dispatcher -/

namespace Dispatcher

variable {d : Dispatcher} {s : Store}

/-- **A pushed job** is queued or leaves the tables as they are: it is queued last of all. -/
theorem allOrNothing_pushJob (d : Dispatcher) (wish : PushJobRequest) (s : Store) :
    AllOrNothing (d.pushJob wish) s := by
  refine AllOrNothing.after_look (by rw [run_lift]; exact .refl s) fun _ => ?_
  rw [run_lift]
  split
  · exact allOrNothing_of_unchanged rfl
  · have same := getEvidence_unchanged wish.caseId wish.evidenceId s
    refine AllOrNothing.after_look (by rw [same]; exact .refl s) fun _ => ?_
    exact allOrNothing_enqueue d.token wish.caseId wish.evidenceId wish.moduleName _

/-- **Evidence is registered,** with a job for every hook that fires, or leaves the tables as they
are. -/
theorem allOrNothing_registerEvidence (h : s.Ready) (named : d.registry.WellNamed) (e : Evidence) :
    AllOrNothing (d.registerEvidence e) s := by
  have same := getCase_unchanged e.caseId s
  refine AllOrNothing.after_look (by rw [same]; exact .refl s) fun _ => ?_
  rw [same]
  refine (allOrNothing_saveEvidence e s).before fun _ s' saved => ?_
  have ready : s'.Ready := by simpa [saved] using h.saveEvidence e
  obtain ⟨-, jobs, s'', -, fired, -⟩ := Hook.onEvidenceAdded_ok ready named d.token d.rules e
  exact ⟨jobs, by rw [fired]⟩

/-- Evidence that was registered fired its hooks once it was saved. -/
theorem fired_of_registerEvidence (h : s.Ready) {e : Evidence} {jobs : List Job} {s' : Store}
    (run : d.registerEvidence e s = (.ok jobs, s')) :
    ∃ s₁, s₁.Ready ∧ s₁.hooks = s.hooks ∧ s₁.jobs = s.jobs ∧
      Hook.onEvidenceAdded d.token d.registry d.rules e s₁ = (.ok jobs, s') := by
  have same := getCase_unchanged e.caseId s
  have ready := h.saveEvidence e
  simp only [registerEvidence, run_bind] at run
  rcases found : Store.getCase e.caseId s with ⟨er | c, s₀⟩
  · rw [found] at run
    cases (Prod.mk.inj run).1
  rw [found] at run same
  obtain rfl : s₀ = s := same
  obtain ⟨er, refused⟩ | ⟨-, rows, saved, -⟩ := saveEvidence_cases e s₀
  · simp only [refused] at run
    cases (Prod.mk.inj run).1
  · rw [saved] at ready
    simp only [saved] at run
    exact ⟨_, ready, rfl, rfl, run⟩

/-- To list the jobs on an item changes no store. -/
theorem evidenceJobs_unchanged (caseId evidenceId : String) (s : Store) :
    (evidenceJobs caseId evidenceId s).2 = s :=
  bind_unchanged (getEvidence_unchanged caseId evidenceId s) fun _ =>
    listJobs_unchanged evidenceId s

/-- To list the modules for an item changes no store. -/
theorem runnableModules_unchanged (d : Dispatcher) (caseId evidenceId : String) (s : Store) :
    (d.runnableModules caseId evidenceId s).2 = s := by
  refine bind_unchanged (getEvidence_unchanged caseId evidenceId s) fun e => ?_
  exact bind_unchanged (listJobs_unchanged evidenceId s) fun jobs => rfl

end Dispatcher
end Casework
