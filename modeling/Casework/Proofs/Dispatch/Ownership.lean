/-
# Who owns a running job

From its start on, a server knows who runs a job: the worker token of a running row is that of a
session on record, and the session was opened for the job's module.  The task of a stream gives its
jobs back before it drops its session, and between these two steps it holds nothing; so the session
is never missed.  What has to be carried along for that is `Owned`: every task has its session, and
a task that gave its jobs back runs none.  It holds when a server is started (`owned_boot`) and is
kept by every action but the loss of the job table (`Owned.act`).

A worker whose session was dropped is gone for good (`Gone`): its name is not drawn again, so
nothing ever runs under it.  `running_jobs_owned` puts the two together.
-/

import Casework.Proofs.Dispatch.Effects

namespace Casework
namespace Dispatch

/-- A server that has just been started on a store, under a name of its own. -/
def boot (store : Store) (registry : Registry) (rules : RuleEngine) (timing : DispatchTiming) :
    Server :=
  let (token, supply) := store.supply.next
  (Server.start ⟨{ store with supply := supply }, { token, registry, rules, timing }⟩).2

/-- A row's worker has a session on record, for the row's module. -/
def HasOwner (s : Server) (r : JobRow) : Prop :=
  ∃ e ∈ s.dispatcher.sessions.entries,
    e.workerToken = r.workerToken ∧ r.moduleName ∈ e.supportedModules

/-- What the ownership of running jobs rests on. -/
structure Owned (s : Server) : Prop where
  sound : Sound s
  there : s.store.jobs.lost = false
  owner : ∀ r ∈ s.store.jobs.rows, r.status = .running → HasOwner s r
  session : ∀ c ∈ s.dispatcher.connections, ∃ e ∈ s.dispatcher.sessions.entries,
    e.workerToken = c.token ∧ e.supportedModules = c.modules
  drawn : ∀ e ∈ s.dispatcher.sessions.entries, s.store.supply.Drawn e.workerToken
  idle : ∀ c ∈ s.dispatcher.connections, c.phase = .released →
    ∀ r ∈ s.store.jobs.rows, r.status = .running → r.workerToken ≠ c.token

variable {s s' : Server} {a : Action} {events : List StreamEvent} {worker : WorkerToken}

/-- A task that has given its jobs back has no running ones afterwards. -/
theorem Owned.idle_effect (h : Owned s) (e : Effect s a events s') :
    ∀ c' ∈ s'.dispatcher.connections, c'.phase = .released →
      ∀ r ∈ s'.store.jobs.rows, r.status = .running → r.workerToken ≠ c'.token := by
  intro c' hc' done r hr runs
  obtain old | idle := e.released h.there hc' done
  · obtain before | ⟨c, hc, serving, r₀, -, -, server, now, rfl⟩ := e.running h.sound hr runs
    · exact h.idle c' old done r before runs
    · -- a task that serves claimed it, so it is not the one that gave its jobs back
      intro (same : c.token = c'.token)
      rw [h.sound.eq_of_token hc old same, done] at serving
      cases serving
  · exact idle r hr runs

/-- Every task keeps its session. -/
theorem Owned.session_effect (h : Owned s) (e : Effect s a events s') :
    ∀ c' ∈ s'.dispatcher.connections, ∃ e ∈ s'.dispatcher.sessions.entries,
      e.workerToken = c'.token ∧ e.supportedModules = c'.modules := by
  intro c' hc'
  obtain ⟨-, -, -, new⟩ | ⟨c, hc, token, modules, -⟩ := e.task h.sound hc'
  · exact new
  · obtain ⟨session, member, same, declared⟩ := h.session c hc
    obtain kept | ⟨-, gone⟩ := e.session h.sound member (h.drawn session member)
    · exact ⟨session, kept, same.trans token.symm, declared.trans modules.symm⟩
    · exact absurd (token.trans same.symm) (gone c' hc')

/-- The session of a task that has not given its jobs back stays on record. -/
theorem Owned.session_kept (h : Owned s) (e : Effect s a events s') {session : WorkerSession}
    (member : session ∈ s.dispatcher.sessions.entries)
    (busy : ∀ c ∈ s.dispatcher.connections, c.token = session.workerToken → c.phase ≠ .released) :
    session ∈ s'.dispatcher.sessions.entries := by
  obtain kept | ⟨⟨c, hc, same, done⟩, -⟩ := e.session h.sound member (h.drawn session member)
  · exact kept
  · exact absurd done (busy c hc same)

/-- **A running job has an owner** after every effect. -/
theorem Owned.owner_effect (h : Owned s) (e : Effect s a events s') :
    ∀ r ∈ s'.store.jobs.rows, r.status = .running → HasOwner s' r := by
  intro r hr runs
  obtain before | ⟨c, hc, serving, r₀, -, waits, server, now, rfl⟩ := e.running h.sound hr runs
  · obtain ⟨session, member, same, declared⟩ := h.owner r before runs
    refine ⟨session, h.session_kept e member fun c hc token done => ?_, same, declared⟩
    exact h.idle c hc done r before runs (same.symm.trans token.symm)
  · obtain ⟨session, member, same, declared⟩ := h.session c hc
    refine ⟨session, h.session_kept e member fun c' hc' token done => ?_, same, ?_⟩
    · rw [← h.sound.eq_of_token hc' hc (token.trans same), done] at serving
      cases serving
    · rw [declared]
      exact (JobRow.isClaimable_iff.1 waits).2

/-- **Ownership is kept** by every action that leaves the job table in reach. -/
theorem Owned.act (h : Owned s) (ne : a ≠ .reach .jobs true) : Owned (act s a).2 := by
  have e := act_effect h.sound.keyed a
  refine ⟨h.sound.effect e, e.lost ne h.there, h.owner_effect e, h.session_effect e, ?_,
    h.idle_effect e⟩
  intro session member
  obtain ⟨-, -, -, used⟩ := e.changed
  obtain old | drawn := e.session_drawn member
  · exact used.drawn (h.drawn session old)
  · exact drawn

/-- **Running jobs are owned** over a whole run with the table of jobs in reach. -/
theorem Owned.run (h : Owned s) {actions : List Action}
    (reachable : ∀ a ∈ actions, a ≠ .reach .jobs true) : Owned (run actions s) :=
  run_induction (fun _ _ ne h => Owned.act h ne) reachable h

/-! ## The start -/

section Start

variable {store : Store} (registry : Registry) (rules : RuleEngine) (timing : DispatchTiming)

/-- The start puts the jobs of earlier servers back. -/
theorem boot_changed (there : store.jobs.lost = false) :
    ∃ now, ({ store with supply := store.supply.next.2 } : Store).Changed
      (.recover store.supply.next.1 now) (boot store registry rules timing).store := by
  have run : Store.releaseStaleJobs store.supply.next.1
      { store with supply := store.supply.next.2 } =
        (_, (boot store registry rules timing).store) := rfl
  obtain ⟨lost, -⟩ | ⟨-, now, changed, -⟩ := Store.releaseStaleJobs_changed run
  · exact absurd (there.symm.trans lost) (by simp)
  · exact ⟨now, changed⟩

/-- **A server that has just been started** on a store with the key of its job table, under a name
that no row bears, owns what runs: nothing does. -/
theorem owned_boot (fresh : store.supply.Fresh) (keyed : Keyed store.jobs.rows)
    (there : store.jobs.lost = false)
    (new : ∀ r ∈ store.jobs.rows, r.serverToken ≠ store.supply.next.1) :
    Owned (boot store registry rules timing) := by
  obtain ⟨now, changed⟩ := boot_changed registry rules timing there
  have used := (Supply.used_next store.supply).trans changed.supply
  have noTask {c : Connection}
      (hc : c ∈ (boot store registry rules timing).dispatcher.connections) : False :=
    List.not_mem_nil hc
  refine ⟨⟨used.fresh fresh, changed.keyed keyed, List.nodup_nil, fun c hc => (noTask hc).elim⟩,
    changed.lost.trans there, fun r hr runs => ?_, fun c hc => (noTask hc).elim,
    fun e he => absurd he List.not_mem_nil, fun c hc => (noTask hc).elim⟩
  obtain ⟨before, same⟩ := JobChange.running_of_mem_recover (changed.rows ▸ hr) runs
  exact absurd same (new r before)

end Start

/-! ## After the end of a stream -/

/-- A worker that had a stream and has none any more. -/
structure Gone (worker : WorkerToken) (s : Server) : Prop where
  drawn : s.store.supply.Drawn worker
  noTask : ∀ c ∈ s.dispatcher.connections, c.token ≠ worker
  idle : ∀ r ∈ s.store.jobs.rows, r.status = .running → r.workerToken ≠ worker

/-- **Gone for good.** -/
theorem Gone.act (sound : Sound s) (h : Gone worker s) (a : Action) : Gone worker (act s a).2 := by
  have e := act_effect sound.keyed a
  obtain ⟨-, -, -, used⟩ := e.changed
  refine ⟨used.drawn h.drawn, fun c' hc' => ?_, fun r hr runs => ?_⟩
  · obtain ⟨token, -⟩ | ⟨c, hc, token, -⟩ := e.task sound hc'
    · rintro rfl
      exact sound.fresh.not_drawn_next (token ▸ h.drawn)
    · rw [token]
      exact h.noTask c hc
  · obtain before | ⟨c, hc, -, r₀, -, -, server, now, rfl⟩ := e.running sound hr runs
    · exact h.idle r before runs
    · exact h.noTask c hc

/-- A worker that is forgotten after it gave its jobs back is gone. -/
theorem Owned.gone_forget (h : Owned s) (done : s.phase? worker = some .released) :
    Gone worker (Dispatch.act s (.forget worker)).2 := by
  obtain ⟨c, found, released⟩ := Option.map_eq_some_iff.1 done
  obtain ⟨hc, rfl⟩ := mem_of_connection? found
  have after : (Dispatch.act s (.forget c.token)).2 = s.forget c.token := by
    simp [Dispatch.act, whenIn, found, released]
  obtain ⟨e, he, token, -⟩ := h.session c hc
  rw [after]
  refine ⟨token ▸ h.drawn e he, fun c' hc' => ?_, h.idle c hc released⟩
  simpa using (List.mem_filter.1 hc').2

/-- **Gone for good,** over a whole run. -/
theorem Gone.run (sound : Sound s) (h : Gone worker s) (actions : List Action) :
    Gone worker (Dispatch.run actions s) := by
  have both : Sound (Dispatch.run actions s) ∧ Gone worker (Dispatch.run actions s) :=
    run_induction (P := fun s => Sound s ∧ Gone worker s) (Q := fun _ => True)
      (fun s a _ h => ⟨h.1.effect (act_effect h.1.keyed a), h.2.act h.1 a⟩)
      (fun _ _ => trivial) ⟨sound, h⟩
  exact both.2

/-! ## All runs -/

/-- A server stays sound over a whole run. -/
theorem Sound.run (h : Sound s) (actions : List Action) : Sound (Dispatch.run actions s) :=
  run_induction (Q := fun _ => True) (fun _ a _ h => h.effect (act_effect h.keyed a))
    (fun _ _ => trivial) h

/-- A job stays on record through a run. -/
theorem sameJob_run (sound : Sound s) (actions : List Action) {r : JobRow}
    (hr : r ∈ s.store.jobs.rows) : ∃ r' ∈ (run actions s).store.jobs.rows, r.SameJob r' := by
  induction actions generalizing s r with
  | nil => exact ⟨r, hr, .refl r⟩
  | cons a actions ih =>
    have e := act_effect sound.keyed a
    obtain ⟨r₁, hr₁, same₁⟩ := e.sameJob hr
    obtain ⟨r₂, hr₂, same₂⟩ := ih (sound.effect e) hr₁
    exact ⟨r₂, hr₂, same₁.trans same₂⟩

/-- **Running jobs have owners.**  A server is started on a store whose job table has its key,
under a name that no row bears; names are handed out once, and the job table stays in reach.  Then
whatever the tasks, the clients and the shutdown do, in any order:

* the worker of every running job has a session on record that was opened for the job's module;
* once the task of a worker has given its jobs back and dropped its session, nothing runs under
  the worker's token any more, and each job that ever ran under it is still on record and is over,
  waits, or runs under another worker on record. -/
theorem running_jobs_owned {store : Store} (registry : Registry) (rules : RuleEngine)
    (timing : DispatchTiming) (fresh : store.supply.Fresh) (keyed : Keyed store.jobs.rows)
    (there : store.jobs.lost = false)
    (new : ∀ r ∈ store.jobs.rows, r.serverToken ≠ store.supply.next.1) {actions : List Action}
    (reachable : ∀ a ∈ actions, a ≠ .reach .jobs true) :
    let start := boot store registry rules timing
    let s := run actions start
    (∀ r ∈ s.store.jobs.rows, r.status = .running → HasOwner s r) ∧
      ∀ early late rest worker, actions = early ++ late ++ .forget worker :: rest →
        (run (early ++ late) start).phase? worker = some .released →
        (∀ r ∈ s.store.jobs.rows, r.status = .running → r.workerToken ≠ worker) ∧
          ∀ r ∈ (run early start).store.jobs.rows, r.status = .running → r.workerToken = worker →
            ∃ r' ∈ s.store.jobs.rows, r.SameJob r' ∧ (r'.status.isTerminal = true ∨
              r'.status = .scheduled ∨
              r'.status = .running ∧ r'.workerToken ≠ worker ∧ HasOwner s r') := by
  intro start s
  have owned : Owned start := owned_boot registry rules timing fresh keyed there new
  have owner := (owned.run reachable).owner
  refine ⟨owner, ?_⟩
  rintro early late rest worker rfl done
  have before : Owned (run (early ++ late) start) :=
    owned.run fun a ha => reachable a (List.mem_append_left _ ha)
  have gone : Gone worker s := by
    have sound := before.sound.effect (act_effect before.sound.keyed (.forget worker))
    have after := (before.gone_forget done).run sound rest
    simpa [s, run_append, run] using after
  refine ⟨gone.idle, fun r hr runs held => ?_⟩
  obtain ⟨r', hr', same⟩ : ∃ r' ∈ s.store.jobs.rows, r.SameJob r' := by
    have kept := sameJob_run (owned.sound.run early) (late ++ .forget worker :: rest) hr
    simpa [s, run_append] using kept
  refine ⟨r', hr', same, ?_⟩
  cases status : r'.status with
  | scheduled => exact .inr (.inl rfl)
  | running => exact .inr (.inr ⟨rfl, gone.idle r' hr' status, owner r' hr' status⟩)
  | success => exact .inl rfl
  | failed => exact .inl rfl

/-- A worker connects to the lone store and claims its job. -/
def loneClaim : List Action := [.connect 0 ⟨"Hayabusa", 1⟩ "localhost", .poll 0 "ww"]

/-- The lone store meets what `running_jobs_owned` asks for, and the job that is claimed there has
an owner. -/
theorem running_jobs_owned_lone :
    lone.supply.Fresh ∧ Keyed lone.jobs.rows ∧ lone.jobs.lost = false ∧
      (∀ r ∈ lone.jobs.rows, r.serverToken ≠ lone.supply.next.1) ∧
      (∀ a ∈ loneClaim, a ≠ .reach .jobs true) ∧
      ∃ r ∈ (run loneClaim (boot lone {} namePatternRules {})).store.jobs.rows,
        r.status = .running ∧ HasOwner (run loneClaim (boot lone {} namePatternRules {})) r := by
  have new : ∀ r ∈ lone.jobs.rows, r.serverToken ≠ lone.supply.next.1 := by decide +kernel
  have reachable : ∀ a ∈ loneClaim, a ≠ .reach .jobs true := by simp [loneClaim]
  obtain ⟨r, hr, runs⟩ : ∃ r ∈ (run loneClaim (boot lone {} namePatternRules {})).store.jobs.rows,
      r.status = .running := by decide +kernel
  have owner :=
    (running_jobs_owned {} namePatternRules {} fresh_lone keyed_lone rfl new reachable).1
  exact ⟨fresh_lone, keyed_lone, rfl, new, reachable, r, hr, runs, owner r hr runs⟩

end Dispatch
end Casework
