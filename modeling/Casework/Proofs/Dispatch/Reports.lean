/-
# Which run a report decides

A report names a job and no worker: it is taken if the job runs at that moment, whoever runs it.  A
worker that lost its stream goes on with what it has in hand and reports it, and by then the job may
wait again or run under another worker.  What can be said of a worker's reports on a job is said
here of all reports that arrive after the job was handed to the worker: its own are among them,
late, lost and repeated ones as well.

A report that is taken ends the run of the worker that it comes from, or that worker gave the job
back and another one has claimed it since, and then it ends the run of that one
(`reports_decide_running_claims`).  That this does happen shows `released_run_decides_next`.
-/

import Casework.Proofs.Dispatch.Handover

namespace Casework
namespace Dispatch

/-- A report arrives and is taken. -/
def Moment.Takes (m : Moment) (report : AckRequest) : Prop :=
  m.action = .request (.ack report) ∧ (Dispatcher.ack report m.before.store).1 = .ok true

/-- The job of an id runs under a worker. -/
def RunsUnder (rows : List JobRow) (worker : WorkerToken) (id : JobId) : Prop :=
  ∃ r ∈ rows, r.id = id ∧ r.status = .running ∧ r.workerToken = worker

instance (rows : List JobRow) (worker : WorkerToken) (id : JobId) :
    Decidable (RunsUnder rows worker id) :=
  inferInstanceAs (Decidable (∃ r ∈ rows, r.id = id ∧ r.status = .running ∧ r.workerToken = worker))

/-- A worker's task claims a job that waited. -/
structure Moment.Claims (m : Moment) (worker : WorkerToken) (id : JobId) : Prop where
  waited : ∃ r ∈ m.before.store.jobs.rows, r.id = id ∧ r.status = .scheduled
  runs : RunsUnder m.after.store.jobs.rows worker id

/-- If the job of an id runs, it runs under another worker, which has claimed it at one of these
moments. -/
def ClaimedSince (late : List Moment) (rows : List JobRow) (worker : WorkerToken) (id : JobId) :
    Prop :=
  ∀ other, RunsUnder rows other id → other ≠ worker ∧ ∃ m ∈ late, m.Claims other id

/-- **A report is taken** if and only if it tells of an end, the jobs are in reach and its job
runs. -/
theorem ack_taken_iff {report : AckRequest} {s : Store} :
    (Dispatcher.ack report s).1 = .ok true ↔ report.status.isTerminal = true ∧
      s.jobs.lost = false ∧ ∃ worker, RunsUnder s.jobs.rows worker report.id := by
  unfold Dispatcher.ack Store.ack
  by_cases ended : report.status.isTerminal = true
  · by_cases lost : s.jobs.lost = true
    · simp [ended, lost]
    · simp [ended, lost, Except.map, RunsUnder]
  · simp [ended]

/-- A report that is not taken leaves the jobs as they are. -/
theorem ack_ignored {report : AckRequest} {s : Store}
    (ignored : (Dispatcher.ack report s).1 ≠ .ok true) :
    (Dispatcher.ack report s).2.jobs.rows = s.jobs.rows := by
  rcases run : Dispatcher.ack report s with ⟨answer, s'⟩
  rw [run] at ignored
  obtain ⟨ch, changed, ⟨rfl, -⟩ | ⟨kept, now, rfl, rfl⟩⟩ := Store.ack_changed run
  · rw [changed.rows, JobChange.apply_idle]
  · have idle : ∀ r ∈ s.jobs.rows, ¬ (r.id = report.id ∧ r.status = .running) := by
      simpa using ignored
    have same : ∀ r ∈ s.jobs.rows,
        (JobChange.finish report.id report.status kept now).onRow r = id r :=
      fun r hr => if_neg (idle r hr)
    rw [changed.rows]
    change s.jobs.rows.map _ ++ [] = _
    rw [List.append_nil, List.map_congr_left same, List.map_id]

/-- A report that is taken ends the job as it says. -/
theorem ack_finishes {report : AckRequest} {s : Store}
    (taken : (Dispatcher.ack report s).1 = .ok true) {r : JobRow} (hr : r ∈ s.jobs.rows)
    (same : r.id = report.id) (runs : r.status = .running) :
    ∃ r' ∈ (Dispatcher.ack report s).2.jobs.rows, r.SameJob r' ∧ r'.status = report.status ∧
      r'.workerToken = r.workerToken := by
  rcases run : Dispatcher.ack report s with ⟨answer, s'⟩
  rw [run] at taken
  obtain rfl : answer = .ok true := taken
  obtain ⟨ch, changed, ⟨-, e, failed⟩ | ⟨kept, now, rfl, -⟩⟩ := Store.ack_changed run
  · simp at failed
  · have row : (JobChange.finish report.id report.status kept now).onRow r =
        r.finished report.status kept now := if_pos ⟨same, runs⟩
    have member : r.finished report.status kept now ∈ s'.jobs.rows := by
      rw [changed.rows, ← row]
      exact JobChange.onRow_mem_apply hr
    exact ⟨_, member, ⟨rfl, rfl, rfl, rfl, rfl⟩, rfl, rfl⟩

variable {s : Server} {past : List Moment} {worker : WorkerToken} {id : JobId}

/-- A job runs under one worker. -/
theorem RunsUnder.unique {rows : List JobRow} (keyed : Keyed rows) {other : WorkerToken}
    (h : RunsUnder rows other id) (holds : Holds rows worker id) : other = worker := by
  obtain ⟨r, hr, same, -, rfl⟩ := h
  obtain ⟨r', hr', same', rfl, -⟩ := holds
  rw [keyed.eq_of_id hr hr' (same.trans same'.symm)]

/-- After a report the store is as the report leaves it. -/
theorem moment_ack_after (s : Server) (report : AckRequest) :
    (moment s (.request (.ack report))).after.store = (Dispatcher.ack report s.store).2 := by
  change ((Statement.ack report).run s.dispatcher s.store).2 = _
  rw [Statement.run, Store.run_map]

/-- Right after a job was given back it does not run. -/
theorem Moment.GivesBack.claimedSince {m : Moment} (keyed : Keyed m.after.store.jobs.rows)
    (given : m.GivesBack worker id) (late : List Moment) :
    ClaimedSince late m.after.store.jobs.rows worker id := by
  rintro other ⟨r, hr, same, runs, -⟩
  obtain ⟨r', hr', same', waits⟩ := given.waits
  rw [keyed.eq_of_id hr hr' (same.trans same'.symm), waits] at runs
  cases runs

/-- A job that runs under another worker goes on to, or that one has just claimed it: the worker
that gave it back claims nothing any more. -/
theorem ClaimedSince.act (sound : Sound s) {late : List Moment} (departed : Departed s worker)
    (h : ClaimedSince late s.store.jobs.rows worker id) (a : Action) :
    ClaimedSince (late ++ [moment s a]) (act s a).2.store.jobs.rows worker id := by
  rintro other ⟨r', hr', same, runs, rfl⟩
  have e := act_effect sound.keyed a
  obtain old | ⟨c, hc, serving, r, hr, waits, server, now, rfl⟩ := e.running sound hr' runs
  · obtain ⟨ne, m, hm, claims⟩ := h r'.workerToken ⟨r', old, same, runs, rfl⟩
    exact ⟨ne, m, List.mem_append_left _ hm, claims⟩
  · refine ⟨fun own => ?_, moment s a, by simp, ?_, _, hr', same, runs, rfl⟩
    · have done := departed.done c hc own
      rw [serving] at done
      cases done
    · exact ⟨r, hr, same, (JobRow.isClaimable_iff.1 waits).1⟩

/-- A job that was handed to a worker is still held by it, or was given back, and whoever runs it
now has claimed it since. -/
def Traced (past : List Moment) (s : Server) : Prop :=
  ∀ front m back worker id, past = front ++ m :: back → m.Hands worker id →
    Holds s.store.jobs.rows worker id ∨ ∃ middle g late, back = middle ++ g :: late ∧
      g.GivesBack worker id ∧ ClaimedSince late s.store.jobs.rows worker id

/-- **What became of a job that was handed out** can be told after every action. -/
theorem Traced.act (ledger : Ledger past s) (h : Traced past s) (a : Action) :
    Traced (past ++ [moment s a]) (act s a).2 := by
  have e := act_effect ledger.sound.keyed a
  have next := ledger.act a
  intro front m back worker id split hands
  obtain ⟨rfl, rfl, rfl⟩ | ⟨back, rfl, rfl⟩ := snoc_split split
  · obtain holds | ⟨⟨m', hm', -⟩, -⟩ := next.lines _ _ [] worker id split hands
    · exact .inl holds
    · exact absurd hm' List.not_mem_nil
  · have held (holds : Holds s.store.jobs.rows worker id) :
        Holds (act s a).2.store.jobs.rows worker id ∨ ∃ middle g late,
          back ++ [moment s a] = middle ++ g :: late ∧ g.GivesBack worker id ∧
            ClaimedSince late (act s a).2.store.jobs.rows worker id := by
      obtain kept | given := e.holds ledger.sound holds
      · exact .inl kept
      · have since := Moment.GivesBack.claimedSince next.sound.keyed given []
        exact .inr ⟨back, moment s a, [], rfl, given, since⟩
    obtain holds | ⟨-, departed⟩ := ledger.lines front m back worker id rfl hands
    · exact held holds
    · obtain holds | ⟨middle, g, late, rfl, given, since⟩ := h front m back worker id rfl hands
      · exact held holds
      · refine .inr ⟨middle, g, late ++ [moment s a], by simp, given, ?_⟩
        exact since.act ledger.sound departed a

/-- **The trace is kept** over a whole run. -/
theorem Traced.run (ledger : Ledger past s) (h : Traced past s) (actions : List Action) :
    Traced (past ++ moments actions s) (Dispatch.run actions s) := by
  induction actions generalizing past s with
  | nil => simpa [moments, Dispatch.run] using h
  | cons a actions ih =>
    simpa [moments, Dispatch.run] using ih (ledger.act a) (h.act ledger a)

/-- A job that was handed to a worker runs under it; or the worker's task gave it back, and another
worker has claimed it since, under which it runs. -/
theorem Traced.runs {s : Server} {front middle : List Moment} {m : Moment}
    (traced : Traced (front ++ m :: middle) s) (keyed : Keyed s.store.jobs.rows)
    (hands : m.Hands worker id) {other : WorkerToken}
    (runs : RunsUnder s.store.jobs.rows other id) :
    other = worker ∨ other ≠ worker ∧ ∃ early g late, middle = early ++ g :: late ∧
      g.GivesBack worker id ∧ ∃ m ∈ late, m.Claims other id := by
  obtain holds | ⟨early, g, late, split, given, since⟩ := traced front m middle worker id rfl hands
  · exact .inl (runs.unique keyed holds)
  · obtain ⟨ne, claimed⟩ := since other runs
    exact .inr ⟨ne, early, g, late, split, given, claimed⟩

/-- What has gone before a moment of a run of a server without tasks. -/
theorem ledger_traced_moments (fresh : s.store.supply.Fresh) (keyed : Keyed s.store.jobs.rows)
    (noTask : s.dispatcher.connections = []) (actions : List Action) :
    Ledger (moments actions s) (Dispatch.run actions s) ∧
      Traced (moments actions s) (Dispatch.run actions s) := by
  have ledger := ledger_start fresh keyed noTask
  have traced : Traced [] s := fun front m back worker id split => by simp at split
  exact ⟨ledger.run actions, traced.run ledger actions⟩

/-- **A report decides the claim that runs.**  Take a server without tasks on a store whose job
table has its key, with names that are handed out once, and any run of it.

* A report is taken if and only if it tells of an end, the job table is in reach and the job runs at
  that moment; otherwise all jobs stay as they are.
* If a report is taken on a job that was handed to a worker before, whose report it may be, then
  the job runs under this worker; or the worker's task has stopped and given the job back in
  between, and the job runs under another worker that has claimed it since.  It ends as the report
  says, under the worker that ran it.

So the report of a run that was given back is not taken unless another claim of the job runs. -/
theorem reports_decide_running_claims (fresh : s.store.supply.Fresh)
    (keyed : Keyed s.store.jobs.rows) (noTask : s.dispatcher.connections = [])
    (actions : List Action) :
    (∀ m ∈ moments actions s, ∀ report, m.action = .request (.ack report) →
      (m.Takes report ↔ report.status.isTerminal = true ∧ m.before.store.jobs.lost = false ∧
        ∃ worker, RunsUnder m.before.store.jobs.rows worker report.id) ∧
      (¬ m.Takes report → m.after.store.jobs.rows = m.before.store.jobs.rows)) ∧
    ∀ front m₁ middle m₂ back worker report,
      moments actions s = front ++ m₁ :: (middle ++ m₂ :: back) →
      m₁.Hands worker report.id → m₂.Takes report →
      ∃ r ∈ m₂.before.store.jobs.rows, r.id = report.id ∧ r.status = .running ∧
        (r.workerToken = worker ∨ r.workerToken ≠ worker ∧ ∃ early g late,
          middle = early ++ g :: late ∧ g.GivesBack worker report.id ∧
          ∃ m ∈ late, m.Claims r.workerToken report.id) ∧
        ∃ r' ∈ m₂.after.store.jobs.rows, r.SameJob r' ∧ r'.status = report.status ∧
          r'.workerToken = r.workerToken := by
  constructor
  · intro m hm report arrives
    obtain ⟨front, back, split⟩ := List.append_of_mem hm
    obtain ⟨early, a, -, rfl⟩ := moments_split split
    obtain rfl : a = .request (.ack report) := arrives
    refine ⟨⟨fun taken => ack_taken_iff.1 taken.2, fun due => ⟨rfl, ack_taken_iff.2 due⟩⟩, ?_⟩
    intro ignored
    rw [moment_ack_after]
    exact ack_ignored fun taken => ignored ⟨rfl, taken⟩
  · rintro front m₁ middle m₂ back worker report split hands ⟨arrives, taken⟩
    rw [← List.cons_append, ← List.append_assoc] at split
    obtain ⟨early, a, past, rfl⟩ := moments_split split
    obtain rfl : a = .request (.ack report) := arrives
    obtain ⟨ledger, traced⟩ := ledger_traced_moments fresh keyed noTask early
    obtain ⟨-, -, other, r, hr, same, runs, rfl⟩ := ack_taken_iff.1 taken
    rw [← past] at traced
    refine ⟨r, hr, same, runs, ?_, ?_⟩
    · exact traced.runs ledger.sound.keyed hands ⟨r, hr, same, runs, rfl⟩
    · rw [moment_ack_after]
      exact ack_finishes taken hr same runs

/-- The lone job is handed to a worker, comes back, and is claimed by a second one. -/
def handoverLone : List Action :=
  claimLone "w" ++ [.proceed "w" true, .leave "w", .release "w"] ++ claimLone "ww"

/-- **A report may decide the run after the one that it is about.**  When the first worker's report
comes, nothing but its own line was written yet, and the job runs under the second worker.  It is
taken; the second worker is handed a job that is over, and its own report is not taken. -/
theorem released_run_decides_next :
    let s := run handoverLone ⟨lone, { token := "server", registry := {} }⟩
    let line (worker : WorkerToken) : StreamEvent :=
      .line worker ⟨"job", worker, "Hayabusa", some loneCase, some loneItem⟩
    let late : AckRequest := ⟨"job", .failed, "killed"⟩
    let decided := run [.request (.ack late)] s
    let own : AckRequest := ⟨"job", .success, ""⟩
    (moments handoverLone ⟨lone, { token := "server", registry := {} }⟩).flatMap Moment.events =
        [line "w"] ∧
      (moment s (.request (.ack late))).Takes late ∧
      RunsUnder s.store.jobs.rows "ww" "job" ∧ ¬ RunsUnder s.store.jobs.rows "w" "job" ∧
      (moment decided (.proceed "ww" true)).events = [line "ww"] ∧
      ¬ (moment (run [.proceed "ww" true] decided) (.request (.ack own))).Takes own := by
  intro s line late decided own
  have runs : RunsUnder s.store.jobs.rows "ww" "job" := by decide +kernel
  refine ⟨by decide +kernel, ⟨rfl, by decide +kernel⟩, runs, by decide +kernel, by decide +kernel,
    fun taken => ?_⟩
  have ignored : (Dispatcher.ack own (run [.proceed "ww" true] decided).store).1 ≠ .ok true := by
    decide +kernel
  exact ignored taken.2

/-- The lone store meets what `reports_decide_running_claims` asks for, and the report of the second
worker on the lone job is taken if it comes in time. -/
theorem reports_decide_running_claims_lone :
    let s : Server := ⟨lone, { token := "server", registry := {} }⟩
    let written := run (handoverLone ++ [.proceed "ww" true]) s
    let own : AckRequest := ⟨"job", .success, ""⟩
    lone.supply.Fresh ∧ Keyed lone.jobs.rows ∧ s.dispatcher.connections = [] ∧
      (moment (run handoverLone s) (.proceed "ww" true)).Hands "ww" "job" ∧
      (moment written (.request (.ack own))).Takes own ∧
      ∃ r ∈ (moment written (.request (.ack own))).after.store.jobs.rows,
        r.status = .success ∧ r.workerToken = "ww" := by
  intro s written own
  have hands : (moment (run handoverLone s) (.proceed "ww" true)).Hands "ww" "job" :=
    ⟨⟨"job", "ww", "Hayabusa", some loneCase, some loneItem⟩, by decide +kernel, rfl, rfl⟩
  have taken : (moment written (.request (.ack own))).Takes own := ⟨rfl, by decide +kernel⟩
  have split : moments (handoverLone ++ [.proceed "ww" true, .request (.ack own)]) s =
      moments handoverLone s ++ moment (run handoverLone s) (.proceed "ww" true) ::
        ([] ++ moment written (.request (.ack own)) :: []) := by
    simp [moments_append, moments, written, run_append, run]
  obtain ⟨-, decides⟩ := reports_decide_running_claims fresh_lone keyed_lone (s := s) rfl
    (handoverLone ++ [.proceed "ww" true, .request (.ack own)])
  obtain ⟨r, -, -, -, worker | ⟨-, early, g, late, nothing, -⟩, r', hr', -, ended, held⟩ :=
    decides _ _ [] _ [] "ww" own split hands taken
  · exact ⟨fresh_lone, keyed_lone, rfl, hands, taken, r', hr', ended, held.trans worker⟩
  · simp at nothing

end Dispatch
end Casework
