/-
# Jobs that a failed release strands

A task that ends gives its jobs back and then drops its session, so that no session is gone while
its jobs still look held.  But if the store fails when the jobs are to be given back, the task goes
on all the same and drops its session.  The jobs run on record then, under a token that no session
has, and nothing at this server gives them back any more: they are `Stranded`.

| the release | running rows of the worker | its session |
| --- | --- | --- |
| succeeds | wait again | dropped |
| fails | stay as they are | dropped all the same |

This is the only way in which jobs get stranded, whatever else goes on at the server and however
often the job table gets out of reach and comes back (`stranded_iff`).  What has to be carried along
for that is `Accounts`: every task has its session, what runs has an owner on record or one that was
dropped after a failed release, and a task that has been through its release holds nothing or has
failed to give it back.
-/

import Casework.Proofs.Dispatch.Handover
import Casework.Proofs.Dispatch.Ownership

namespace Casework
namespace Dispatch

/-- The worker has a session on record. -/
def OnRecord (s : Server) (worker : WorkerToken) : Prop :=
  ∃ e ∈ s.dispatcher.sessions.entries, e.workerToken = worker

/-- The job of the row runs on record, for a worker that is not on record. -/
structure Stranded (s : Server) (r : JobRow) : Prop where
  mem : r ∈ s.store.jobs.rows
  runs : r.status = .running
  absent : ¬OnRecord s r.workerToken

variable {s s' : Server} {a : Action} {events : List StreamEvent} {worker : WorkerToken}
  {r : JobRow} {start : Server} {actions : List Action}

/-! ## The end of one stream -/

/-- A release fails if the job table is out of reach. -/
theorem release_fails_iff (s : Server) (worker : WorkerToken) :
    (∃ e, (s.release worker).1 = .error e) ↔ s.store.jobs.lost = true := by
  rcases run : Store.releaseWorkerJobs worker s.store with ⟨answer, store⟩
  have answered : (s.release worker).1 = answer := by
    simp [Server.release, Server.onStore, Dispatcher.reclaimWorkerJobs, run]
  rw [answered]
  obtain ⟨lost, -, e, rfl⟩ | ⟨there, now, -, rfl⟩ := Store.releaseWorkerJobs_changed run
  · exact iff_of_true ⟨e, rfl⟩ lost
  · exact iff_of_false (by simp) (by simp [there])

/-- What still runs after a release ran before, and under the worker only if the release failed. -/
theorem running_release (s : Server) (worker : WorkerToken) (r : JobRow) :
    (r ∈ (s.release worker).2.store.jobs.rows ∧ r.status = .running) ↔
      r ∈ s.store.jobs.rows ∧ r.status = .running ∧
        (r.workerToken = worker → s.store.jobs.lost = true) := by
  rcases run : Store.releaseWorkerJobs worker s.store with ⟨answer, store⟩
  have after : (s.release worker).2.store = store := by
    simp [Server.release, Server.onStore, Dispatcher.reclaimWorkerJobs, run, Server.turn,
      Server.updateConnection]
  rw [after]
  obtain ⟨lost, changed, -⟩ | ⟨there, now, changed, -⟩ := Store.releaseWorkerJobs_changed run
  · rw [changed.rows, JobChange.apply_idle]
    simp [lost]
  · rw [changed.rows]
    constructor
    · rintro ⟨hr, runs⟩
      obtain ⟨before, other⟩ := JobChange.running_of_mem_release hr runs
      exact ⟨before, runs, fun own => absurd own other⟩
    · rintro ⟨hr, runs, other⟩
      have free : ¬r.isHeldBy worker = true := fun held => by
        simpa [there] using other (JobRow.isHeldBy_iff.1 held).1
      have same : (JobChange.release worker now).onRow r = r := by simp [JobChange.onRow, free]
      have kept : (JobChange.release worker now).onRow r ∈ _ := JobChange.onRow_mem_apply hr
      rw [same] at kept
      exact ⟨kept, runs⟩

/-- Who is forgotten is not on record, and the others are as before. -/
theorem onRecord_forget (s : Server) (worker other : WorkerToken) :
    OnRecord (s.forget worker) other ↔ OnRecord s other ∧ other ≠ worker := by
  constructor
  · rintro ⟨e, he, rfl⟩
    obtain ⟨before, ne⟩ := Sessions.mem_without.1 he
    exact ⟨⟨e, before, rfl⟩, ne⟩
  · rintro ⟨⟨e, he, rfl⟩, ne⟩
    exact ⟨e, Sessions.mem_without.2 ⟨he, ne⟩, rfl⟩

/-- The end of a stream takes the worker's session along. -/
theorem onRecord_close (s : Server) (worker other : WorkerToken) :
    OnRecord (s.close worker) other ↔ OnRecord s other ∧ other ≠ worker :=
  onRecord_forget ((s.leave worker).release worker).2 worker other

/-- **The end of a stream strands** the worker's running jobs if the release fails, and no others;
what was stranded before stays so, unless it is given back now. -/
theorem stranded_close (s : Server) (worker : WorkerToken) (r : JobRow) :
    Stranded (s.close worker) r ↔ r ∈ s.store.jobs.rows ∧ r.status = .running ∧
      if r.workerToken = worker then ∃ e, ((s.leave worker).release worker).1 = .error e
      else ¬OnRecord s r.workerToken := by
  have record := onRecord_close s worker
  have runs := running_release (s.leave worker) worker r
  rw [release_fails_iff]
  constructor
  · rintro ⟨hr, running, absent⟩
    obtain ⟨before, -, failed⟩ := runs.1 ⟨hr, running⟩
    refine ⟨before, running, ?_⟩
    split
    next own => exact failed own
    next other => exact fun on => absent ((record _).2 ⟨on, other⟩)
  · rintro ⟨before, running, how⟩
    by_cases own : r.workerToken = worker
    · rw [if_pos own] at how
      obtain ⟨hr, -⟩ := runs.2 ⟨before, running, fun _ => how⟩
      exact ⟨hr, running, fun on => ((record _).1 on).2 own⟩
    · rw [if_neg own] at how
      obtain ⟨hr, -⟩ := runs.2 ⟨before, running, fun same => absurd same own⟩
      exact ⟨hr, running, fun on => how ((record _).1 on).1⟩

/-! ## Runs -/

/-- A run ends with its last action. -/
theorem run_concat (actions : List Action) (a : Action) (s : Server) :
    run (actions ++ [a]) s = (act (run actions s) a).2 := by
  rw [run_append]
  rfl

/-- The task of a worker, which had stopped, failed to give its jobs back. -/
def FailedToRelease (start : Server) (actions : List Action) (worker : WorkerToken) : Prop :=
  ∃ early late, actions = early ++ .release worker :: late ∧
    (run early start).phase? worker = some .leaving ∧
    ∃ e, ((run early start).release worker).1 = .error e

/-- The task of a worker failed to give its jobs back and dropped its session all the same. -/
def DroppedAfterFailure (start : Server) (actions : List Action) (worker : WorkerToken) : Prop :=
  ∃ early late, actions = early ++ .forget worker :: late ∧
    FailedToRelease start early worker ∧ (run early start).phase? worker = some .released

/-- A failure to give jobs back stays a failure. -/
theorem FailedToRelease.append (h : FailedToRelease start actions worker) (more : List Action) :
    FailedToRelease start (actions ++ more) worker := by
  obtain ⟨early, late, rfl, stopped, failed⟩ := h
  exact ⟨early, late ++ more, by simp, stopped, failed⟩

/-- A session that was dropped after a failure stays dropped after it. -/
theorem DroppedAfterFailure.append (h : DroppedAfterFailure start actions worker)
    (more : List Action) : DroppedAfterFailure start (actions ++ more) worker := by
  obtain ⟨early, late, rfl, failed, done⟩ := h
  exact ⟨early, late ++ more, by simp, failed, done⟩

/-- A worker stays on record until its task, which has been through its release, drops the
session. -/
theorem Effect.onRecord (h : Effect s a events s') (on : OnRecord s worker) :
    OnRecord s' worker ∨ a = .forget worker ∧
      (∃ c ∈ s.dispatcher.connections, c.token = worker ∧ c.phase = .released) ∧
        ∀ c' ∈ s'.dispatcher.connections, c'.token ≠ worker := by
  obtain ⟨e, he, rfl⟩ := on
  cases h with
  | @enrolled a session task? supply new used task =>
    by_cases same : e.workerToken = session.workerToken
    · exact .inl ⟨session, Sessions.mem_insert.2 (.inr rfl), same.symm⟩
    · exact .inl ⟨e, Sessions.mem_insert.2 (.inl ⟨he, same⟩), rfl⟩
  | @forgot c found done =>
    by_cases same : c.token = e.workerToken
    · refine .inr ⟨by rw [same], ⟨c, found, same, done⟩, fun c' hc' => ?_⟩
      simpa [same] using (List.mem_filter.1 hc').2
    · exact .inl ⟨e, Sessions.mem_without.2 ⟨he, Ne.symm same⟩, rfl⟩
  | _ => exact .inl ⟨e, he, rfl⟩

/-- What is known after some actions of who runs what. -/
structure Accounts (start : Server) (actions : List Action) : Prop where
  sound : Sound (run actions start)
  session : ∀ c ∈ (run actions start).dispatcher.connections, OnRecord (run actions start) c.token
  owner : ∀ r ∈ (run actions start).store.jobs.rows, r.status = .running →
    OnRecord (run actions start) r.workerToken ∨ DroppedAfterFailure start actions r.workerToken
  idle : ∀ c ∈ (run actions start).dispatcher.connections, c.phase = .released →
    (∀ r ∈ (run actions start).store.jobs.rows, r.status = .running → r.workerToken ≠ c.token) ∨
      FailedToRelease start actions c.token

namespace Accounts

/-- After an action every task still has its session. -/
theorem session_concat (h : Accounts start actions) (a : Action) :
    ∀ c' ∈ (run (actions ++ [a]) start).dispatcher.connections,
      OnRecord (run (actions ++ [a]) start) c'.token := by
  rw [run_concat]
  intro c' hc'
  have e := act_effect h.sound.keyed a
  obtain ⟨-, -, -, session, member, same, -⟩ | ⟨c, hc, token, -⟩ := e.task h.sound hc'
  · exact ⟨session, member, same⟩
  · rw [token]
    obtain kept | ⟨-, -, gone⟩ := e.onRecord (h.session c hc)
    · exact kept
    · exact absurd token (gone c' hc')

/-- **After an action** the worker of a running job is on record, or was dropped after a failure. -/
theorem owner_concat (h : Accounts start actions) (a : Action) :
    ∀ r ∈ (run (actions ++ [a]) start).store.jobs.rows, r.status = .running →
      OnRecord (run (actions ++ [a]) start) r.workerToken ∨
        DroppedAfterFailure start (actions ++ [a]) r.workerToken := by
  rw [run_concat]
  intro r hr runs
  have e := act_effect h.sound.keyed a
  obtain before | ⟨c, hc, serving, r₀, -, -, server, now, rfl⟩ := e.running h.sound hr runs
  · obtain on | dropped := h.owner r before runs
    · obtain kept | ⟨forgets, ⟨c, hc, own, done⟩, -⟩ := e.onRecord on
      · exact .inl kept
      · -- the session goes now: its task had failed to give this very job back
        obtain idle | failed := h.idle c hc done
        · exact absurd own.symm (idle r before runs)
        · have phase := h.sound.phase?_eq hc
          rw [own] at failed phase
          exact .inr ⟨actions, [], by rw [forgets], failed, by rw [phase, done]⟩
    · exact .inr (dropped.append [a])
  · obtain kept | ⟨-, ⟨c', hc', own, done⟩, -⟩ := e.onRecord (h.session c hc)
    · exact .inl kept
    · rw [h.sound.eq_of_token hc' hc own, serving] at done
      cases done

/-- After an action a task that is through has no running jobs, or failed to give them back. -/
theorem idle_concat (h : Accounts start actions) (a : Action) :
    ∀ c' ∈ (run (actions ++ [a]) start).dispatcher.connections, c'.phase = .released →
      (∀ r ∈ (run (actions ++ [a]) start).store.jobs.rows, r.status = .running →
        r.workerToken ≠ c'.token) ∨ FailedToRelease start (actions ++ [a]) c'.token := by
  rw [run_concat]
  intro c' hc' done
  have e := act_effect h.sound.keyed a
  obtain old | ⟨rfl, ⟨c, hc, own, stopped⟩, lost | idle⟩ := e.released_by hc' done
  · obtain idle | failed := h.idle c' old done
    · refine .inl fun r hr runs => ?_
      obtain before | ⟨c, hc, serving, r₀, -, -, server, now, rfl⟩ := e.running h.sound hr runs
      · exact idle r before runs
      · intro (same : c.token = c'.token)
        rw [h.sound.eq_of_token hc old same, done] at serving
        cases serving
    · exact .inr (failed.append [a])
  · have phase := h.sound.phase?_eq hc
    rw [own, stopped] at phase
    exact .inr ⟨actions, [], rfl, phase, (release_fails_iff _ _).2 lost⟩
  · exact .inl idle

/-- **The accounts are kept** by every action. -/
theorem concat (h : Accounts start actions) (a : Action) : Accounts start (actions ++ [a]) := by
  refine ⟨?_, h.session_concat a, h.owner_concat a, h.idle_concat a⟩
  rw [run_concat]
  exact h.sound.effect (act_effect h.sound.keyed a)

/-- **After any run it is known who runs what.** -/
theorem of_owned (h : Owned start) (actions : List Action) : Accounts start actions := by
  induction actions using List.reverseRecOn with
  | nil =>
    refine ⟨h.sound, fun c hc => ?_, fun r hr runs => ?_, fun c hc done => .inl (h.idle c hc done)⟩
    · obtain ⟨e, he, same, -⟩ := h.session c hc
      exact ⟨e, he, same⟩
    · obtain ⟨e, he, same, -⟩ := h.owner r hr runs
      exact .inl ⟨e, he, same⟩
  | append_singleton actions a ih => exact ih.concat a

end Accounts

/-! ## After the session was dropped -/

/-- A worker that had a session and has neither session nor task any more. -/
structure SignedOff (worker : WorkerToken) (s : Server) : Prop where
  drawn : s.store.supply.Drawn worker
  noTask : ∀ c ∈ s.dispatcher.connections, c.token ≠ worker
  absent : ¬OnRecord s worker

/-- Nobody signs on again under a name that was handed out before. -/
theorem SignedOff.act (sound : Sound s) (h : SignedOff worker s) (a : Action) :
    SignedOff worker (act s a).2 := by
  have e := act_effect sound.keyed a
  obtain ⟨-, -, -, used⟩ := e.changed
  refine ⟨used.drawn h.drawn, fun c' hc' => ?_, ?_⟩
  · obtain ⟨token, -⟩ | ⟨c, hc, token, -⟩ := e.task sound hc'
    · rintro rfl
      exact sound.fresh.not_drawn_next (token ▸ h.drawn)
    · rw [token]
      exact h.noTask c hc
  · rintro ⟨session, member, rfl⟩
    obtain old | ⟨new, -⟩ := e.session_new member
    · exact h.absent ⟨session, old, rfl⟩
    · exact sound.fresh.not_drawn_next (new ▸ h.drawn)

/-- Who has signed off does not come back. -/
theorem SignedOff.run (sound : Sound s) (h : SignedOff worker s) (actions : List Action) :
    SignedOff worker (Dispatch.run actions s) := by
  have both : Sound (Dispatch.run actions s) ∧ SignedOff worker (Dispatch.run actions s) :=
    run_induction (P := fun s => Sound s ∧ SignedOff worker s) (Q := fun _ => True)
      (fun s a _ h => ⟨h.1.effect (act_effect h.1.keyed a), h.2.act h.1 a⟩)
      (fun _ _ => trivial) ⟨sound, h⟩
  exact both.2

/-- A task that has been through its release signs its worker off. -/
theorem signedOff_forget (sound : Sound s) (done : s.phase? worker = some .released) :
    SignedOff worker (act s (.forget worker)).2 := by
  obtain ⟨c, found, released⟩ := Option.map_eq_some_iff.1 done
  obtain ⟨hc, rfl⟩ := mem_of_connection? found
  have after : (act s (.forget c.token)).2 = s.forget c.token := by
    simp [act, whenIn, found, released]
  rw [after]
  refine ⟨sound.drawn c hc, fun c' hc' => by simpa using (List.mem_filter.1 hc').2, fun on => ?_⟩
  exact ((onRecord_forget s c.token c.token).1 on).2 rfl

/-- A worker that was dropped after a failure has signed off. -/
theorem DroppedAfterFailure.signedOff (sound : Sound start)
    (h : DroppedAfterFailure start actions worker) : SignedOff worker (run actions start) := by
  obtain ⟨early, late, rfl, -, done⟩ := h
  have before := sound.run early
  have after := before.effect (act_effect before.keyed (.forget worker))
  have off := (signedOff_forget before done).run after late
  simpa [run_append, run] using off

/-! ## The main statement -/

/-- **A job is stranded just by a failed release.**

* At any server, the whole end of a stream leaves a running job under a worker that is not on
  record if the worker is the stream's and the release failed, or if the job was stranded before
  under another worker.
* A server is started on a store whose job table has its key, under a name that no row bears; names
  are handed out once.  Then, whatever the tasks, the clients and the shutdown do, in any order, and
  whether tables get out of reach or come back, a running job is stranded if and only if its
  worker's task failed to give its jobs back and dropped its session all the same. -/
theorem stranded_iff {store : Store} (registry : Registry) (rules : RuleEngine)
    (timing : DispatchTiming) (fresh : store.supply.Fresh) (keyed : Keyed store.jobs.rows)
    (there : store.jobs.lost = false)
    (new : ∀ r ∈ store.jobs.rows, r.serverToken ≠ store.supply.next.1) :
    (∀ (s : Server) worker r, Stranded (s.close worker) r ↔
      r ∈ s.store.jobs.rows ∧ r.status = .running ∧
        if r.workerToken = worker then ∃ e, ((s.leave worker).release worker).1 = .error e
        else ¬OnRecord s r.workerToken) ∧
    ∀ actions : List Action,
      let start := boot store registry rules timing
      ∀ r ∈ (run actions start).store.jobs.rows, r.status = .running →
        (Stranded (run actions start) r ↔ DroppedAfterFailure start actions r.workerToken) := by
  refine ⟨stranded_close, fun actions => ?_⟩
  intro start r hr runs
  have owned : Owned start := owned_boot registry rules timing fresh keyed there new
  constructor
  · intro stranded
    obtain on | dropped := (Accounts.of_owned owned actions).owner r hr runs
    · exact absurd on stranded.absent
    · exact dropped
  · intro dropped
    exact ⟨hr, runs, (dropped.signedOff owned.sound).absent⟩

/-- The worker of the lone job goes away before it got its line, while the job table is out of
reach. -/
def loneFailure : List Action :=
  loneClaim ++ [.reach .jobs true, .proceed "ww" true, .proceed "ww" true, .proceed "ww" false,
    .release "ww", .forget "ww", .reach .jobs false]

/-- Then nobody is on record. -/
theorem not_onRecord_loneFailure (worker : WorkerToken) :
    ¬OnRecord (run loneFailure (boot lone {} namePatternRules {})) worker := by
  have noSession : (run loneFailure
      (boot lone {} namePatternRules {})).dispatcher.sessions.entries = [] := by decide +kernel
  rintro ⟨e, he, -⟩
  rw [noSession] at he
  exact List.not_mem_nil he

/-- And its job is stranded. -/
theorem stranded_loneFailure : ∃ r, r.workerToken = "ww" ∧
    Stranded (run loneFailure (boot lone {} namePatternRules {})) r := by
  obtain ⟨r, hr, runs, token⟩ : ∃ r ∈ (run loneFailure
      (boot lone {} namePatternRules {})).store.jobs.rows,
      r.status = .running ∧ r.workerToken = "ww" := by decide +kernel
  exact ⟨r, token, hr, runs, not_onRecord_loneFailure _⟩

/-- **A session is gone while its job still looks held:** the job table is in reach again, the lone
job runs on record under the token of the worker that went away, and nobody is on record. -/
theorem job_stranded :
    let s := run loneFailure (boot lone {} namePatternRules {})
    s.store.jobs.lost = false ∧ (∀ worker, ¬OnRecord s worker) ∧
      ∃ r, r.workerToken = "ww" ∧ Stranded s r := by
  intro s
  have back : s.store.jobs.lost = false := by decide +kernel
  exact ⟨back, not_onRecord_loneFailure, stranded_loneFailure⟩

/-- The lone store meets what `stranded_iff` asks for, and the worker that went away is one whose
session was dropped after a failed release. -/
theorem stranded_iff_lone :
    lone.supply.Fresh ∧ Keyed lone.jobs.rows ∧ lone.jobs.lost = false ∧
      (∀ r ∈ lone.jobs.rows, r.serverToken ≠ lone.supply.next.1) ∧
      DroppedAfterFailure (boot lone {} namePatternRules {}) loneFailure "ww" := by
  have new : ∀ r ∈ lone.jobs.rows, r.serverToken ≠ lone.supply.next.1 := by decide +kernel
  obtain ⟨-, iff⟩ := stranded_iff {} namePatternRules {} fresh_lone keyed_lone rfl new
  obtain ⟨r, token, stranded⟩ := stranded_loneFailure
  have dropped := (iff loneFailure r stranded.mem stranded.runs).1 stranded
  exact ⟨fresh_lone, keyed_lone, rfl, new, token ▸ dropped⟩

end Dispatch
end Casework
