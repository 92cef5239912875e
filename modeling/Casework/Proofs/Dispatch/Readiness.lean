/-
# Every store of a run is ready

As long as no table gets out of reach, the queue keeps its store ready for every job
(`Store.Ready`): whatever a task, a request or an operator does next, jobs bear names that were
drawn, and hooks can be read.  `World.Ready` says so of a world, together with the names of the
modules that its servers know and that its requests have still to queue; one turn keeps it
(`World.Ready.turn`), and so every run from nothing on reaches it (`ready_run`).

In such a world a request that is under way can only fail before it has written anything
(`next_ready`).
-/

import Casework.Proofs.Dispatch.World
import Casework.Proofs.Hook.Firing

namespace Casework
namespace Dispatch

/-! ## One server -/

section Server

variable {s : Server}

/-- **What an action does to the store:** one change of the job table by which no job comes in, a
request's statement, or a table gets in or out of reach. -/
theorem act_store (keyed : Keyed s.store.jobs.rows) (a : Action) :
    s.store.Moved (act s a).2.store ∨
      (∃ st, a = .request st ∧ (act s a).2.store = (st.run s.dispatcher s.store).2) ∨
      ∃ table lost, a = .reach table lost ∧ (act s a).2.store = s.store.reach table lost := by
  have same {s' : Server} (h : s'.store = s.store) : s.store.Moved s'.store := h ▸ .refl _
  have task {phase : ConnectionPhase} {worker : WorkerToken}
      {go : Connection → List StreamEvent × Server}
      (h : ∀ c, s.store.Moved (go c).2.store) :
      s.store.Moved (whenIn phase worker s go).2.store := by
    obtain idle | ⟨c, -, -, -, goes⟩ := whenIn_cases phase worker s go
    · rw [idle]
      exact .refl _
    · rw [goes]
      exact h c
  cases a with
  | connect now params remote =>
    refine .inl ?_
    rw [act]
    cases Server.declaredModules params with
    | error e => exact .refl _
    | ok modules =>
      have used := (Supply.used_next s.store.supply).trans
        (Supply.used_now s.store.supply.next.2)
      exact ⟨.idle, Store.changed_idle used, rfl⟩
  | poll now worker =>
    exact .inl (task fun c => Store.moved_claimNext keyed s.dispatcher.token c.token c.modules)
  | keepAlive now worker => exact .inl (task fun c => same rfl)
  | proceed worker written =>
    refine .inl ?_
    rw [act]
    unfold Server.proceed
    cases phase : (s.connection? worker).map Connection.phase with
    | none => exact same rfl
    | some p =>
      cases p with
      | describing job case? =>
        cases case? with
        | none => exact same (Store.getCase_unchanged job.caseId s.store)
        | some c => exact same (Store.getEvidence_unchanged job.caseId job.evidenceId s.store)
      | failing id missing =>
        exact Store.moved_ack id .failed (missing ++ " no longer exists") s.store
      | writing d =>
        dsimp only
        rw [Server.write]
        cases written with
        | true => exact same rfl
        | false => exact same rfl
      | serving => exact same rfl
      | leaving => exact same rfl
      | released => exact same rfl
  | leave worker => exact .inl (task fun c => same rfl)
  | release worker => exact .inl (task fun c => Store.moved_releaseWorkerJobs worker s.store)
  | forget worker => exact .inl (task fun c => same rfl)
  | shutdown => exact .inl (same rfl)
  | request st => exact .inr (.inl ⟨st, rfl, rfl⟩)
  | reach table lost => exact .inr (.inr ⟨table, lost, rfl, rfl⟩)

/-- A table that comes back into reach leaves the store ready. -/
theorem ready_reach {store : Store} (h : store.Ready) (table : Store.TableName) :
    (store.reach table false).Ready := by
  obtain ⟨fresh, keyed, drawn, readable, jobs, cases, evidences, hooks⟩ := h
  cases table with
  | jobs => exact ⟨fresh, keyed, drawn, readable, rfl, cases, evidences, hooks⟩
  | cases => exact ⟨fresh, keyed, drawn, readable, jobs, rfl, evidences, hooks⟩
  | evidences => exact ⟨fresh, keyed, drawn, readable, jobs, cases, rfl, hooks⟩
  | hooks => exact ⟨fresh, keyed, drawn, readable, jobs, cases, evidences, rfl⟩

/-- What an action does to a ready store leaves it ready. -/
theorem ready_act (h : s.store.Ready) {a : Action} (bare : a.isBare = false)
    (reach : ∀ table, a ≠ .reach table true) : (act s a).2.store.Ready := by
  obtain moved | ⟨st, rfl, after⟩ | ⟨table, lost, rfl, after⟩ := act_store h.keyed a
  · exact h.moved moved
  · rw [after]
    cases st with
    | enqueue caseId evidenceId moduleName => simp [Action.isBare] at bare
    | saveEvidence e => simp [Action.isBare] at bare
    | ack report =>
      rw [Statement.run, Store.run_map]
      exact h.moved (Store.moved_ack report.id report.status report.error s.store)
    | saveCase c => exact h.saveCase c
    | saveHook hook => exact h.saveHook hook
    | deleteHook id => exact h.deleteHook id
  · rw [after]
    cases lost with
    | false => exact ready_reach h table
    | true => exact absurd rfl (reach table)

end Server

/-! ## Requests under way -/

/-- The modules that are left to queue have well-formed names. -/
def Errand.WellNamed : Errand → Prop
  | .push _ wish => checkModuleName wish.moduleName = .ok ()
  | .save d _ => d.registry.WellNamed
  | .look d _ => d.registry.WellNamed
  | .queue _ _ hooks => ∀ hook ∈ hooks, checkModuleName hook.module = .ok ()

/-- The name of a module is looked at first. -/
theorem start_wellNamed {d : Dispatcher} (named : d.registry.WellNamed) {request : Request}
    {s : Store} {t : Errand} (h : (request.start d s).1 = .ok t) : t.WellNamed := by
  obtain ⟨wish, e, rfl, first, -⟩ | ⟨e, c, rfl, -⟩ := start_cases h
  · exact first
  · exact named

/-- **A request that is under way goes on,** and all that it can fail at is the first thing that it
writes: the item may belong to another case. -/
theorem next_ready {s : Store} (h : s.Ready) {t : Errand} (named : t.WellNamed) :
    (∃ t? s', t.next s = (.ok t?, s') ∧ s'.Ready ∧ ∀ t' ∈ t?, t'.WellNamed) ∨
      ∃ d e er, t = .save d e ∧ t.next s = (.error er, s) := by
  cases t with
  | push d wish =>
    obtain ⟨job, s', queued, ready⟩ := h.enqueue named d.token wish.caseId wish.evidenceId
    refine .inl ⟨none, s', ?_, ready, by simp⟩
    simp only [Errand.next, Store.run_bind, queued, Store.run_pure]
  | save d e =>
    obtain ⟨er, failed⟩ | ⟨-, rows, saved, -⟩ := Store.saveEvidence_cases e s
    · refine .inr ⟨d, e, er, rfl, ?_⟩
      simp only [Errand.next, Store.run_bind, failed]
    · have ready := h.saveEvidence e
      rw [saved] at ready
      refine .inl ⟨some (.look d e), _, ?_, ready, fun t' ht' => ?_⟩
      · simp only [Errand.next, Store.run_bind, saved, Store.run_pure]
      · obtain rfl := Option.some.inj ht'
        exact named
  | look d e =>
    obtain ⟨hooks, listed⟩ := h.listHooks
    refine .inl ⟨some (.queue d e (hooks.filter (Hook.fires d.registry d.rules e))), s, ?_, h,
      fun t' ht' => ?_⟩
    · simp only [Errand.next, Store.run_bind, listed, Store.run_pure]
    · obtain rfl := Option.some.inj ht'
      intro hook mem
      have held := Hook.contains_of_fires (List.mem_filter.1 mem).2
      exact Registry.WellNamed.of_contains named held
  | queue d e hooks =>
    cases hooks with
    | nil => exact .inl ⟨none, s, rfl, h, by simp⟩
    | cons hook hooks =>
      obtain ⟨first, rest⟩ := List.forall_mem_cons.1 named
      obtain ⟨job, s', queued, ready⟩ := h.enqueue first d.token e.caseId e.id
      refine .inl ⟨some (.queue d e hooks), s', ?_, ready, fun t' ht' => ?_⟩
      · simp only [Errand.next, Store.run_bind, queued, Store.run_pure]
      · obtain rfl := Option.some.inj ht'
        exact rest

/-! ## All servers and requests -/

/-- All tables stay in reach, and a server that starts knows modules with well-formed names. -/
def Turn.Fine : Turn → Prop
  | .start settings => settings.registry.WellNamed
  | .attach settings => settings.registry.WellNamed
  | .act _ (.reach _ lost) => lost = false
  | .reach _ lost => lost = false
  | _ => True

namespace World

/-- The store is ready, and all modules have well-formed names. -/
structure Ready (w : World) : Prop where
  store : w.store.Ready
  members : ∀ d ∈ w.members, d.registry.WellNamed
  errands : ∀ t ∈ w.errands, t.WellNamed

variable {w : World}

/-- A server that joins a ready world finds it ready. -/
theorem Ready.join (h : w.Ready) {s : Server} (ready : s.store.Ready)
    (named : s.dispatcher.registry.WellNamed) : (w.join s).Ready := by
  refine ⟨ready, fun d hd => ?_, h.errands⟩
  obtain old | new := List.mem_append.1 hd
  · exact h.members d old
  · exact List.mem_singleton.1 new ▸ named

/-- A server that takes a token from a ready store is ready. -/
theorem ready_named (h : w.Ready) (settings : Dispatcher) : (named w.store settings).store.Ready :=
  h.store.supply (Supply.used_next _)

/-- **A turn leaves a ready world ready,** whoever's turn it is. -/
theorem Ready.turn (h : w.Ready) {t : Turn} (fine : t.Fine) : (w.turn t).Ready := by
  have goes := turn_goes w t
  generalize w.turn t = w' at goes ⊢
  cases goes with
  | aside t used servers requests =>
    exact ⟨h.store.supply used, fun d hd => h.members d (servers d hd),
      fun t ht => h.errands t (requests t ht)⟩
  | started settings =>
    have moved := Store.moved_releaseStaleJobs w.store.supply.next.1 (named w.store settings).store
    exact h.join ((ready_named h settings).moved moved) fine
  | attached settings => exact h.join (ready_named h settings) fine
  | @acted i a d s members member bare after servers =>
    have reach (table : Store.TableName) : a ≠ .reach table true := by
      rintro rfl
      simp [Turn.Fine] at fine
    have ready := ready_act (s := ⟨w.store, d⟩) h.store bare reach
    have effect := act_effect (s := ⟨w.store, d⟩) h.store.keyed a
    rw [after] at ready effect
    refine ⟨ready, fun d' hd' => ?_, h.errands⟩
    obtain old | rfl := servers d' hd'
    · exact h.members d' old
    · rw [effect.registry]
      exact h.members d member
  | begun i member started =>
    refine ⟨h.store, h.members, fun t ht => ?_⟩
    obtain old | new := List.mem_append.1 ht
    · exact h.errands t old
    · obtain rfl := List.mem_singleton.1 new
      exact start_wellNamed (h.members _ member) started
  | wentOn n member next requests =>
    obtain ⟨t?, s', went, ready, left⟩ | ⟨d, e, er, -, failed⟩ :=
      next_ready h.store (h.errands _ member)
    · obtain ⟨rfl, rfl⟩ := Prod.mk.inj (next.symm.trans went)
      refine ⟨ready, h.members, fun t ht => ?_⟩
      obtain old | this := requests t ht
      · exact h.errands t old
      · exact left t (Except.ok.inj this)
    · obtain ⟨rfl, rfl⟩ := Prod.mk.inj (next.symm.trans failed)
      refine ⟨h.store, h.members, fun t ht => ?_⟩
      obtain old | this := requests t ht
      · exact h.errands t old
      · simp at this
  | reached table lost =>
    obtain rfl : lost = false := fine
    exact ⟨ready_reach h.store table, h.members, h.errands⟩

/-- **Every world of a run from nothing on is ready.** -/
theorem ready_run {supply : Supply} (fresh : supply.Fresh) {turns : List Turn}
    (fine : ∀ t ∈ turns, t.Fine) : ((empty supply).run turns).Ready := by
  have start : (empty supply).Ready :=
    ⟨Store.ready_empty fresh, fun _ hd => absurd hd List.not_mem_nil,
      fun _ ht => absurd ht List.not_mem_nil⟩
  exact run_induction (fun w t fine h => h.turn fine) fine start

end World

/-- A store that servers, workers, clients and operators can leave, from nothing on, while all
tables stay in reach. -/
def Reachable (supply : Supply) (store : Store) : Prop :=
  ∃ turns : List Turn, (∀ t ∈ turns, t.Fine) ∧ ((World.empty supply).run turns).store = store

/-- **Every store that can be reached** is ready. -/
theorem Reachable.ready {supply : Supply} (fresh : supply.Fresh) {store : Store}
    (h : Reachable supply store) : store.Ready := by
  obtain ⟨turns, fine, rfl⟩ := h
  exact (World.ready_run fresh fine).store

end Dispatch
end Casework
