/-
# Whose token a job bears

A job has the token of a connection from the claim that hands it out until a release clears it.  A
report clears nothing:

| status | worker token | a connection holds the job |
| --- | --- | --- |
| `scheduled` | empty | no |
| `running` | that of the last claim | yes |
| `success`, `failed` | that of the claim that the report finished | no |

The last row is where a token outlives its holder.  By induction on the calls, a row is over if and
only if a report on it was applied, and then bears the token of the claim that was finished
(`over_iff_finishedUnder`).  So a row bears the token of a connection that does not hold its job if
and only if a report was applied to a claim under a token that is not empty, and then for good
(`token_outlives_holder_iff`); one claim and one report are enough (`finished_job_bears_token`).
-/

import Casework.Proofs.Queue.Lifecycle
import Casework.Proofs.Queue.Order

namespace Casework
namespace Queue

/-- The row bears a worker token, and its job does not run. -/
def BearsStaleToken (r : JobRow) : Prop := r.workerToken ≠ "" ∧ r.status ≠ .running

instance (r : JobRow) : Decidable (BearsStaleToken r) :=
  inferInstanceAs (Decidable (r.workerToken ≠ "" ∧ r.status ≠ .running))

/-- A report on a job was applied, and the claim that it finished was made under the token. -/
def FinishedUnder (h : List Turn) (worker : WorkerToken) (id : JobId) : Prop :=
  ∃ front t back server, h = front ++ t :: back ∧ t.Finishes id ∧
    lastTaker? front id = some (worker, server)

variable {s : Store} {c : Call} {supply : Supply} {calls : List Call} {worker : WorkerToken}
  {id : JobId} {r r' : JobRow}

/-- A job that was finished under a token stays so. -/
theorem FinishedUnder.append {h : List Turn} (finished : FinishedUnder h worker id)
    (more : List Turn) : FinishedUnder (h ++ more) worker id := by
  obtain ⟨front, t, back, server, rfl, finishes, taker⟩ := finished
  exact ⟨front, t, back ++ more, server, by simp, finishes, taker⟩

/-! ## One turn -/

/-- A change that finishes a job is a report on it that is applied. -/
theorem Outcome.applied_of_finish {rows : List JobRow} {answer : Except Error Reply}
    {status : JobStatus} {kept : String} {now : Timestamp}
    (outcome : Outcome rows c answer (.finish r.id status kept now)) (hr : r ∈ rows)
    (runs : r.status = .running) :
    (∃ error, c = .ack r.id status error) ∧ answer = .ok (.applied true) := by
  cases outcome with
  | applied _ _ error _ _ =>
    refine ⟨⟨error, rfl⟩, ?_⟩
    have due : (rows.any fun x => x.id == r.id && x.status == .running) = true :=
      List.any_eq_true.2 ⟨r, hr, by simp [runs]⟩
    rw [due]

/-- **A row that is over** was over before the turn, or the turn is a report on it that is applied,
which leaves the worker token of the running row. -/
theorem over_turn (sound : Sound s.jobs.rows) (hr' : r' ∈ (c.turn s).after.jobs.rows)
    (ended : r'.status.isTerminal = true) :
    r' ∈ s.jobs.rows ∨ ∃ r ∈ s.jobs.rows, r.status = .running ∧ r'.id = r.id ∧
      r'.workerToken = r.workerToken ∧ (c.turn s).Finishes r.id := by
  obtain ⟨ch, changed, outcome⟩ := run_outcome sound c
  rw [changed.rows] at hr'
  obtain ⟨r, hr, rfl⟩ | new := JobChange.mem_apply.1 hr'
  · have rewrites := JobChange.onRow_rewrites ch r
    generalize ch.onRow r = r' at rewrites ended ⊢
    cases rewrites with
    | stays => exact .inl hr
    | claimed => simp [JobRow.claimed, JobStatus.isTerminal] at ended
    | finished runs status kept now =>
      obtain ⟨⟨error, call⟩, answer⟩ := outcome.applied_of_finish hr runs
      exact .inr ⟨r, hr, runs, rfl, rfl, ⟨status, error, call⟩, answer⟩
    | released => simp [JobRow.released, JobStatus.isTerminal] at ended
    | recovered => simp [JobRow.recovered, JobStatus.isTerminal] at ended
  · obtain ⟨-, _, _, _, _, _, _, rfl⟩ := JobChange.added_scheduled changed.allowed new
    simp [JobRow.scheduled, JobStatus.isTerminal] at ended

/-- A report that is applied leaves its row over, with the worker token that it had, and such that
it can be read. -/
theorem Turn.Finishes.row (sound : Sound s.jobs.rows) (h : (c.turn s).Finishes id) :
    ∃ r ∈ s.jobs.rows, r.id = id ∧ r.status = .running ∧
      ∃ r' ∈ (c.turn s).after.jobs.rows, r'.id = id ∧ r'.status.isTerminal = true ∧
        r'.workerToken = r.workerToken ∧ r'.job?.isSome = true := by
  obtain ⟨ch, changed, outcome⟩ := run_outcome sound c
  obtain ⟨⟨status, error, call⟩, answer⟩ := h
  obtain ⟨⟨r, hr, rfl, runs⟩, kept, now, rfl⟩ := outcome.finishes call answer
  have there := @JobChange.onRow_mem_apply (.finish r.id status kept now) _ _ hr
  have rule : (JobChange.finish r.id status kept now).onRow r = r.finished status kept now := by
    simp [JobChange.onRow, runs]
  rw [rule, ← changed.rows] at there
  obtain ⟨created, queued⟩ := Option.isSome_iff_exists.1 (sound.readable r hr)
  exact ⟨r, hr, rfl, runs, _, there, rfl, changed.allowed.1, rfl,
    by simp [JobRow.job?, JobRow.finished, queued]⟩

/-! ## Whole histories -/

/-- **What a report finished is over for good,** under the token of the claim. -/
theorem FinishedUnder.row (finished : FinishedUnder (history calls (empty supply)) worker id) :
    ∃ r ∈ (after calls (empty supply)).jobs.rows, r.id = id ∧ r.status.isTerminal = true ∧
      r.workerToken = worker ∧ r.job?.isSome = true := by
  obtain ⟨front, t, back, server, split, finishes, taker⟩ := finished
  obtain ⟨earlier, c, later, rfl, rfl, rfl, -⟩ := history_split split
  have sound := sound_after_empty supply earlier
  obtain ⟨r, hr, rfl, runs, r', hr', same, ended, token, read⟩ := finishes.row sound
  have held := lastTaker?_of_running supply earlier r hr runs
  rw [taker] at held
  obtain ⟨rfl, -⟩ := Prod.mk.inj (Option.some.inj held)
  obtain ⟨i, at_i⟩ := List.mem_iff_getElem?.1 hr'
  obtain ⟨_, kept, -, untouched⟩ := continues_after (sound.turn c) later i r' at_i
  obtain rfl := untouched ended
  rw [after_append]
  exact ⟨_, List.mem_of_getElem? kept, same, ended, token, read⟩

/-- A row that is over was finished under the token that it bears, by induction on the calls: the
last one left it over, or finished the claim of a running row. -/
theorem finishedUnder_of_over (supply : Supply) (calls : List Call) :
    ∀ r ∈ (after calls (empty supply)).jobs.rows, r.status.isTerminal = true →
      FinishedUnder (history calls (empty supply)) r.workerToken r.id := by
  induction calls using List.reverseRecOn with
  | nil => simp [after, empty]
  | append_singleton calls c ih =>
    have sound := sound_after_empty supply calls
    intro r' hr' ended
    rw [after_append, after, after] at hr'
    rw [history_append, history, history]
    obtain before | ⟨r, hr, runs, same, token, finishes⟩ := over_turn sound hr' ended
    · exact (ih r' before ended).append _
    · rw [same, token]
      exact ⟨_, _, [], _, rfl, finishes, lastTaker?_of_running supply calls r hr runs⟩

/-- **A row is over under a token** if and only if a report finished a claim under it. -/
theorem over_iff_finishedUnder (hr : r ∈ (after calls (empty supply)).jobs.rows) :
    r.status.isTerminal = true ∧ r.workerToken = worker ↔
      FinishedUnder (history calls (empty supply)) worker r.id := by
  constructor
  · rintro ⟨ended, rfl⟩
    exact finishedUnder_of_over supply calls r hr ended
  · intro finished
    obtain ⟨r', hr', same, ended, token, -⟩ := finished.row
    obtain rfl := (sound_after_empty supply calls).keyed.eq_of_id hr' hr same
    exact ⟨ended, token⟩

/-- A job whose row can be read is found by its id. -/
theorem getJob_of_mem (sound : Sound s.jobs.rows) (there : s.jobs.lost = false)
    (hr : r ∈ s.jobs.rows) {job : Job} (read : r.job? = some job) :
    Store.getJob r.id s = (.ok job, s) := by
  have found : s.jobs.rows.find? (fun x => x.id == r.id) = some r := by
    obtain ⟨x, first⟩ : ∃ x, s.jobs.rows.find? (fun x => x.id == r.id) = some x :=
      Option.isSome_iff_exists.1 (List.find?_isSome.2 ⟨r, hr, by simp⟩)
    have same : x.id = r.id := by simpa using List.find?_some first
    rw [first, sound.keyed.eq_of_id (List.mem_of_find?_eq_some first) hr same]
  rw [Store.run_getJob, if_neg (by simp [there]), found]
  simp [JobRow.read, read]

/-- Only a row that is over bears a token that nobody holds it by. -/
theorem bearsStaleToken_iff (tidy : r.Tidy) :
    BearsStaleToken r ↔ r.status.isTerminal = true ∧ r.workerToken ≠ "" := by
  have waits := tidy.worker
  unfold BearsStaleToken
  cases status : r.status <;> simp_all [JobStatus.isTerminal]

/-- **A worker token outlives its holder** if and only if a report was applied to a claim that was
made under it.

* After any calls from the empty store every row with a worker token runs, if and only if every
  claim that a report finished was made under the empty token.
* A row is over with a token if and only if a report finished a claim of it under that token.
* Whoever looks such a job up, after whatever further calls, finds it over and with the token. -/
theorem token_outlives_holder_iff (supply : Supply) (calls : List Call) :
    let s := after calls (empty supply)
    let h := history calls (empty supply)
    ((∀ r ∈ s.jobs.rows, r.workerToken ≠ "" → r.status = .running) ↔
      ∀ worker id, FinishedUnder h worker id → worker = "") ∧
    (∀ r ∈ s.jobs.rows, ∀ worker,
      r.status.isTerminal = true ∧ r.workerToken = worker ↔ FinishedUnder h worker r.id) ∧
    ∀ worker id, FinishedUnder h worker id → ∀ more, ∃ job,
      (Store.getJob id (after more s)).1 = .ok job ∧ job.id = id ∧
        job.status.isTerminal = true ∧ job.workerToken = worker := by
  intro s h
  have sound : Sound s.jobs.rows := sound_after_empty supply calls
  refine ⟨⟨fun held worker id finished => ?_, fun blank r hr token => ?_⟩,
    fun r hr worker => over_iff_finishedUnder hr, fun worker id finished more => ?_⟩
  · obtain ⟨r, hr, -, ended, rfl, -⟩ := finished.row
    by_contra token
    rw [held r hr token] at ended
    cases ended
  · by_contra idle
    obtain ⟨ended, -⟩ := (bearsStaleToken_iff (sound.tidy r hr)).1 ⟨token, idle⟩
    exact token (blank _ _ (finishedUnder_of_over supply calls r hr ended))
  · have later : FinishedUnder (history (calls ++ more) (empty supply)) worker id := by
      rw [history_append]
      exact finished.append _
    have there : (after (calls ++ more) (empty supply)).jobs.lost = false :=
      lost_after sound_nil (calls ++ more)
    obtain ⟨r, hr, rfl, ended, rfl, read⟩ := later.row
    obtain ⟨job, read⟩ := Option.isSome_iff_exists.1 read
    have looked := getJob_of_mem (sound_after_empty supply (calls ++ more)) there hr read
    rw [after_append] at looked
    rw [looked]
    obtain ⟨id, -, -, -, status, -⟩ := JobRow.of_job? read
    exact ⟨job, rfl, id, status ▸ ended, JobRow.workerToken_of_job? read⟩

/-- A job is queued, handed out, and reported as done. -/
def reported : List Call :=
  [.enqueue "server" "case" "item" "Hayabusa", .claimNext "server" "worker" ["Hayabusa"],
    .ack "j" .success ""]

/-- **A finished job bears the token** of a connection that is done with it. -/
theorem finished_job_bears_token : ¬∀ r ∈ (after reported (empty .counting)).jobs.rows,
    r.workerToken ≠ "" → r.status = .running := by
  decide +kernel

end Queue
end Casework
