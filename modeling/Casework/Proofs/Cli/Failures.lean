/-
# Commands that fail change nothing

An operator's command works on one store of the machine and leaves it where it was.  Each command is
one operation that leaves the tables as they are if it fails (`allOrNothing_onStore?`), so that the
stores of a machine are as before when a command ends with an error (`run_failed`).  Together with
what holds of requests (`Http.serve_refused`, `Dispatch.next_ready`) this is
`failures_change_nothing`: whatever fails changes nothing.
-/

import Casework.Cli.Program
import Casework.Proofs.Dispatch.Readiness
import Casework.Proofs.Dispatch.Scoping
import Casework.Proofs.Http.Failures

namespace Casework
namespace Cli

open Store

/-! ## Commands -/

section Commands

variable {s : Store} {d : Dispatcher}

/-- To select jobs changes no store. -/
theorem selectJobs_unchanged (status? evidence? : Option String) (limit : Int) (s : Store) :
    (selectJobs status? evidence? limit s).2 = s := by
  refine bind_unchanged ?_ fun status? => ?_
  · cases status? with
    | none => rfl
    | some name => cases parsed : JobStatus.parse name <;> simp [Option.mapM, parsed]
  · cases evidence? with
    | none => exact listJobsByStatus_unchanged status? limit s
    | some evidenceId => exact bind_unchanged (listJobs_unchanged evidenceId s) fun _ => rfl

/-- To look a job up by the front of its id changes no store. -/
theorem resolveJob_unchanged (id : String) (s : Store) : (resolveJob id s).2 = s := by
  unfold resolveJob
  split
  · refine bind_unchanged (findJobs_unchanged id 2 s) fun jobs => ?_
    split <;> rfl
  · exact getJob_unchanged id s

/-- A hook is checked before it is saved. -/
theorem allOrNothing_addHook (d : Dispatcher) (name module condition : String) (enabled : Bool)
    (s : Store) : AllOrNothing (addHook d name module condition enabled) s := by
  refine AllOrNothing.after_look (sameTables_supply s _) fun id => ?_
  refine AllOrNothing.after_look (by rw [run_lift]; exact .refl _) fun _ => ?_
  exact (allOrNothing_saveHook _ _).before fun _ _ _ => ⟨_, rfl⟩

/-- An item gets its id and its time before it is registered. -/
theorem allOrNothing_addEvidence (h : s.Ready) (named : d.registry.WellNamed)
    (caseId name : String) (id? : Option String) (kind source : String) :
    AllOrNothing (addEvidence d caseId name id? kind source) s := by
  have rest (id : String) {s : Store} (h : s.Ready) : AllOrNothing (do
      let now ← Store.now
      let jobs ← d.registerEvidence ⟨id, caseId, kind, name, source, "", 0, "", now⟩
      return textOfLines (["Registered evidence " ++ id ++ " (" ++ name ++ ")"] ++
        jobs.map fun j => "  hook queued " ++ j.id ++ " (" ++ j.moduleName ++ ")")) s := by
    refine AllOrNothing.after_look (sameTables_supply s _) fun now => ?_
    have ready := h.supply (Supply.used_now s.supply)
    exact (Dispatcher.allOrNothing_registerEvidence ready named _).before fun _ _ _ => ⟨_, rfl⟩
  cases id? with
  | some id => exact rest id h
  | none =>
    refine AllOrNothing.after_look (sameTables_supply s _) fun id => ?_
    exact rest id (h.supply (Supply.used_next s.supply))

/-- **A command that fails** leaves the tables of its store as they are. -/
theorem allOrNothing_onStore? (h : s.Ready) (named : d.registry.WellNamed) {c : Command}
    {op : StoreM String} (chosen : c.onStore? d = some op) : AllOrNothing op s := by
  cases c with
  | pushJob caseId evidenceId moduleName =>
    obtain rfl := Option.some.inj chosen
    exact (d.allOrNothing_pushJob _ s).before fun _ _ _ => ⟨_, rfl⟩
  | listJobs status? evidence? limit =>
    obtain rfl := Option.some.inj chosen
    exact (allOrNothing_of_unchanged (selectJobs_unchanged status? evidence? limit s)).map _
  | showJob id =>
    obtain rfl := Option.some.inj chosen
    exact (allOrNothing_of_unchanged (resolveJob_unchanged id s)).map _
  | addHook name module condition enabled =>
    obtain rfl := Option.some.inj chosen
    exact allOrNothing_addHook d name module condition enabled s
  | listHooks =>
    obtain rfl := Option.some.inj chosen
    exact (allOrNothing_of_unchanged (listHooks_unchanged s)).before fun _ _ _ => ⟨_, rfl⟩
  | removeHook id =>
    obtain rfl := Option.some.inj chosen
    exact (allOrNothing_deleteHook id s).before fun _ _ _ => ⟨_, rfl⟩
  | addCase id name sketchId =>
    obtain rfl := Option.some.inj chosen
    exact (allOrNothing_saveCase _ s).before fun _ _ _ => ⟨_, rfl⟩
  | addEvidence caseId name id? kind source =>
    obtain rfl := Option.some.inj chosen
    exact allOrNothing_addEvidence h named caseId name id? kind source
  | runnableModules caseId evidenceId =>
    obtain rfl := Option.some.inj chosen
    have look := d.runnableModules_unchanged caseId evidenceId s
    exact (allOrNothing_of_unchanged look).before fun _ _ _ => ⟨_, rfl⟩
  | _ => simp [Command.onStore?] at chosen

end Commands

/-! ## The stores of a machine -/

/-- Every store of the machine has the tables that it had. -/
def SameStores (m m' : Machine) : Prop :=
  ∀ place?, (m.storeAt place?).SameTables (m'.storeAt place?)

section Machines

variable {m m' : Machine}

theorem SameStores.trans {m'' : Machine} (h : SameStores m m') (h' : SameStores m' m'') :
    SameStores m m'' :=
  fun place? => (h place?).trans (h' place?)

/-- A machine that keeps its stores keeps what they hold. -/
theorem sameStores_of_stores (h : m'.stores = m.stores) : SameStores m m' := by
  intro place?
  unfold Machine.storeAt
  rw [h]
  cases place?.bind fun p => (m.stores.find? fun s => s.1 == p).map Prod.snd with
  | none => exact ⟨rfl, rfl, rfl, rfl⟩
  | some s => exact ⟨rfl, rfl, rfl, rfl⟩

/-- A store that is left at a place is there. -/
theorem storeAt_putStore (m : Machine) (p : Place) (s : Store) :
    (m.putStore (some p) s).storeAt (some p) = s := by
  have gone : ((m.stores.filter fun old => old.1 != p).find? fun s => s.1 == p) = none := by
    refine List.find?_eq_none.2 fun old held => ?_
    simpa using (List.mem_filter.1 held).2
  simp only [Machine.putStore, Machine.storeAt, Option.bind_some, List.find?_append, gone,
    List.find?_cons, beq_self_eq_true, Option.none_or, Option.map_some, Option.getD_some]

/-- Other stores only see names and times drawn. -/
theorem storeAt_putStore_of_ne {place? other? : Option Place}
    (other : place? = none ∨ other? ≠ place?) (s : Store) :
    (m.putStore place? s).storeAt other? = { m.storeAt other? with supply := s.supply } := by
  cases place? with
  | none =>
    unfold Machine.storeAt Machine.putStore
    cases other?.bind fun p => (m.stores.find? fun s => s.1 == p).map Prod.snd <;> rfl
  | some p =>
    cases other? with
    | none => rfl
    | some q =>
      have ne : q ≠ p := by simpa using other
      have found : ((m.putStore (some p) s).stores.find? fun s => s.1 == q) =
          m.stores.find? fun s => s.1 == q := by
        have no : (p == q) = false := by simpa using Ne.symm ne
        simp only [Machine.putStore, List.find?_append, List.find?_filter, List.find?_cons, no,
          List.find?_nil, Option.or_none]
        refine congrArg (fun p => List.find? p m.stores) (funext fun s => ?_)
        by_cases there : s.1 = q <;> simp [there, ne]
      unfold Machine.storeAt
      simp only [Option.bind_some, found]
      cases (m.stores.find? fun s => s.1 == q).map Prod.snd <;> rfl

/-- A store that comes back to its place with the tables that it had. -/
theorem sameStores_putStore {place? : Option Place} {s : Store}
    (same : (m.storeAt place?).SameTables s) : SameStores m (m.putStore place? s) := by
  intro other?
  by_cases other : place? = none ∨ other? ≠ place?
  · rw [storeAt_putStore_of_ne other]
    exact sameTables_supply _ _
  · obtain ⟨there, rfl⟩ : place? ≠ none ∧ other? = place? := by simpa using other
    obtain ⟨p, rfl⟩ := Option.ne_none_iff_exists'.1 there
    rw [storeAt_putStore]
    exact same

/-- To draw an ident changes of a store only what is left of the supply. -/
theorem storeAt_freshIdent (m : Machine) (place? : Option Place) :
    m.freshIdent.2.storeAt place? =
      { m.storeAt place? with supply := m.host.supply.next.2 } := by
  unfold Machine.storeAt Machine.freshIdent
  cases place?.bind fun p => (m.stores.find? fun s => s.1 == p).map Prod.snd <;> rfl

/-- A name is drawn when a store is opened, and nothing else happens. -/
theorem openStore_eq (m : Machine) :
    (∃ e, openStore m = (.error e, m)) ∨ ∃ config place?,
      openStore m = (.ok (config, place?, m.freshIdent.1), m.freshIdent.2) := by
  unfold openStore
  cases ServerConfig.ofEnvironment m.environment with
  | error e => exact .inl ⟨e, rfl⟩
  | ok config =>
    dsimp only
    cases m.locate config.databaseUrl with
    | error e => exact .inl ⟨e, rfl⟩
    | ok place? => exact .inr ⟨config, place?, rfl⟩

/-- **A command on a store** that fails has changed no store, if what it does there is all or
nothing. -/
theorem runOnStore_failed (ready : ∀ place?, (m.storeAt place?).Ready)
    {op : Dispatcher → StoreM String}
    (all : ∀ (d : Dispatcher) s, d.registry.WellNamed → s.Ready → AllOrNothing (op d) s)
    (failed : (runOnStore m op).1.exitCode ≠ 0) : SameStores m (runOnStore m op).2 := by
  unfold runOnStore at failed ⊢
  obtain ⟨e, opened⟩ | ⟨config, place?, opened⟩ := openStore_eq m
  · rw [opened]
    exact sameStores_of_stores rfl
  · rw [opened] at failed ⊢
    dsimp only at failed ⊢
    let d : Dispatcher := { token := m.freshIdent.1, registry := .catalog }
    have drawn : (m.freshIdent.2.storeAt place?).Ready := by
      rw [storeAt_freshIdent]
      exact (ready place?).supply (Supply.used_next _)
    have opening : SameStores m m.freshIdent.2 := sameStores_of_stores rfl
    rcases run : op d (m.freshIdent.2.storeAt place?) with ⟨e | text, s⟩
    · have done : m.freshIdent.2.onStore place? (op d) =
          (.error e, m.freshIdent.2.putStore place? s) := by
        unfold Machine.onStore
        rw [run]
      rw [done]
      have same := all d _ Registry.wellNamed_catalog drawn e s run
      exact opening.trans (sameStores_putStore same)
    · have done : m.freshIdent.2.onStore place? (op d) =
          (.ok text, m.freshIdent.2.putStore place? s) := by
        unfold Machine.onStore
        rw [run]
      rw [done] at failed
      exact absurd rfl failed

/-- The command is an operator's: it is neither a server nor a worker. -/
def Command.isOperators : Command → Bool
  | .serve _ => false
  | .work _ _ => false
  | _ => true

/-- **An operator's command** that fails has changed no store. -/
theorem runCommand_failed (ready : ∀ place?, (m.storeAt place?).Ready) {c : Command}
    (operators : c.isOperators = true) (failed : (runCommand m c).1.exitCode ≠ 0) :
    SameStores m (runCommand m c).2 := by
  have stored (chosen : ∀ d, ∃ op, c.onStore? d = some op)
      (failed : (runOnStore m fun d => (c.onStore? d).getD (pure "")).1.exitCode ≠ 0) :
      SameStores m (runOnStore m fun d => (c.onStore? d).getD (pure "")).2 := by
    refine runOnStore_failed ready (fun d s named h => ?_) failed
    obtain ⟨op, chosen⟩ := chosen d
    rw [chosen]
    exact allOrNothing_onStore? h named chosen
  cases c with
  | serve bind? => simp [Command.isOperators] at operators
  | work concurrency? tools? => simp [Command.isOperators] at operators
  | listModules => exact absurd rfl failed
  | checkModules path =>
    refine sameStores_of_stores ?_
    unfold runCommand checkModules availableModules
    dsimp only
    split
    · rfl
    · rfl
  | _ => exact stored (fun d => ⟨_, rfl⟩) failed

/-- **A command that ends with an error** leaves every store of the machine as it was. -/
theorem run_failed (ready : ∀ place?, (m.storeAt place?).Ready) {args : List String}
    (operators : ∀ c, Command.parse args = .ok c → c.isOperators = true)
    (failed : (run m args).1.exitCode ≠ 0) : SameStores m (run m args).2 := by
  let m₁ : Machine := { m with environment := Dotenv.load m.host.files m.environment }
  unfold run at failed ⊢
  dsimp only at failed ⊢
  cases parsed : Command.parse args with
  | error usage => exact sameStores_of_stores rfl
  | ok c =>
    rw [parsed] at failed
    dsimp only at failed ⊢
    have before : SameStores m m₁ := sameStores_of_stores rfl
    have during : SameStores m₁ (runCommand m₁ c).2 :=
      runCommand_failed (m := m₁) ready (operators c parsed) failed
    exact before.trans (during.trans (sameStores_of_stores rfl))

end Machines
end Cli

open Dispatch

/-- **What fails changes nothing.**  Names are handed out once.  Take any store that servers,
workers, clients and operators can leave, from nothing on, while all tables stay in reach.  Then the
jobs, cases, evidence and hooks on record are as before, and so are a server's sessions,

* when a server there answers any request with a status from 400 on,
* when a request that is under way fails at one of its statements, which can only be the one that
  saves an item,
* when an operator's command ends with an error, on every store of the machine. -/
theorem failures_change_nothing {supply : Supply} (fresh : supply.Fresh) :
    (∀ turns : List Turn, (∀ t ∈ turns, t.Fine) →
      let w := (World.empty supply).run turns
      (∀ d ∈ w.members, ∀ apiKey? now remote r,
        let o := Http.serve ⟨w.store, d⟩ apiKey? now remote r
        400 ≤ o.1.status → o.2.2.dispatcher = d ∧ w.store.SameTables o.2.2.store) ∧
      ∀ t ∈ w.errands, ∀ e store, t.next w.store = (.error e, store) →
        w.store.SameTables store ∧ ∃ d item, t = .save d item) ∧
    ∀ m : Cli.Machine, (∀ place?, Reachable supply (m.storeAt place?)) →
      ∀ args, (∀ c, Cli.Command.parse args = .ok c → c.isOperators = true) →
        (Cli.run m args).1.exitCode ≠ 0 →
        ∀ place?, (m.storeAt place?).SameTables ((Cli.run m args).2.storeAt place?) := by
  refine ⟨fun turns fine => ?_, fun m reachable args operators failed => ?_⟩
  · have ready := World.ready_run fresh fine
    refine ⟨fun d hd apiKey? now remote r failed => ?_, fun t ht e store failed => ?_⟩
    · have refused := Http.serve_refused (s := ⟨_, d⟩) ready.store (ready.members d hd) failed
      exact ⟨refused.dispatcher, refused.tables⟩
    · obtain ⟨t?, s', went, -, -⟩ | ⟨d, item, er, rfl, stuck⟩ :=
        next_ready ready.store (ready.errands t ht)
      · obtain ⟨answer, -⟩ := Prod.mk.inj (went.symm.trans failed)
        simp at answer
      · obtain ⟨-, rfl⟩ := Prod.mk.inj (stuck.symm.trans failed)
        exact ⟨.refl _, d, item, rfl⟩
  · exact Cli.run_failed (fun place? => (reachable place?).ready fresh) operators failed

/-- A machine with the store of the workday. -/
def workdayMachine : Cli.Machine :=
  let store := ((World.empty lone.supply).run workday).store
  { host := { files := {}, launch := fun _ _ => .error "", supply := store.supply }
    environment := [("DATABASE_URL", "sqlite:///db")]
    stores := [(["db"], store)]
    bind := fun _ => .ok () }

/-- After the workday a job without a body is refused with a 415, and a hook that is not there
cannot be removed.  Both leave the two jobs of the day as they are. -/
theorem failures_change_nothing_workday :
    let w := (World.empty lone.supply).run workday
    (∃ d ∈ w.members,
      let o := Http.serve ⟨w.store, d⟩ none 0 "localhost"
        { method := "POST", target := "/api/jobs" }
      o.1.status = 415 ∧ o.2.2.dispatcher = d ∧ w.store.SameTables o.2.2.store) ∧
    w.store.jobs.rows.length = 2 ∧
      (Cli.run workdayMachine ["hook", "remove", "nobody"]).1.exitCode = 1 ∧
      w.store.SameTables
        ((Cli.run workdayMachine ["hook", "remove", "nobody"]).2.storeAt (some ["db"])) := by
  intro w
  have named : Registry.WellNamed ⟨[hayabusa]⟩ := by
    intro m hm
    obtain rfl := List.mem_singleton.1 hm
    decide +kernel
  have fine : ∀ t ∈ workday, t.Fine := by
    simp [workday, Turn.Fine, named]
  have reachable : ∀ place?, Reachable lone.supply (workdayMachine.storeAt place?) := by
    intro place?
    -- another store than that of the workday has only seen names and times drawn
    let others : List Turn := List.replicate 4 .draw ++ List.replicate 5 .glance
    have away : Reachable lone.supply { supply := w.store.supply } :=
      ⟨others, by simp [others, Turn.Fine], rfl⟩
    cases place? with
    | none => exact away
    | some p =>
      by_cases own : ["db"] = p
      · subst own
        exact ⟨workday, fine, rfl⟩
      · have elsewhere : workdayMachine.storeAt (some p) = { supply := w.store.supply } := by
          simp [Cli.Machine.storeAt, workdayMachine, own, w]
        rw [elsewhere]
        exact away
  have operators : ∀ c, Cli.Command.parse ["hook", "remove", "nobody"] = .ok c →
      c.isOperators = true := by
    intro c parsed
    have command : Cli.Command.parse ["hook", "remove", "nobody"] =
        .ok (.removeHook "nobody") := by
      rfl
    obtain rfl := Except.ok.inj (command.symm.trans parsed)
    rfl
  have failed : (Cli.run workdayMachine ["hook", "remove", "nobody"]).1.exitCode = 1 := by
    decide +kernel
  obtain ⟨requests, commands⟩ := failures_change_nothing fresh_lone
  refine ⟨?_, by decide +kernel, failed, ?_⟩
  · obtain ⟨served, -⟩ := requests workday fine
    obtain ⟨d, hd, refused⟩ : ∃ d ∈ w.members, (Http.serve ⟨w.store, d⟩ none 0 "localhost"
        { method := "POST", target := "/api/jobs" }).1.status = 415 := by decide +kernel
    have status : 400 ≤ 415 := by omega
    exact ⟨d, hd, refused, served d hd none 0 "localhost" _ (status.trans refused.ge)⟩
  · exact commands workdayMachine reachable _ operators (by omega) (some ["db"])

end Casework
