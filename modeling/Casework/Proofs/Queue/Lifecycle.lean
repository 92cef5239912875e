/-
# The life of a job

Whatever is called, and by whom, a job row keeps its place and what makes it that job
(`Continues`), its status takes one of the four ways of `JobStatus.Moves` at a time, and it is
never touched again once it is over.  The tokens of a running row are those of the claim that
last handed it out (`lastTaker?`), so they can be read off the history.  `job_lifecycle` puts
these together.
-/

import Casework.Proofs.Queue.History

namespace Casework
namespace Queue

/-- A later table: every row is in its place, is the same job, and is untouched if it was over. -/
def Continues (rows rows' : List JobRow) : Prop :=
  ∀ (i : Nat) (r : JobRow), rows[i]? = some r →
    ∃ r', rows'[i]? = some r' ∧ r.SameJob r' ∧ (r.status.isTerminal = true → r' = r)

theorem Continues.refl (rows : List JobRow) : Continues rows rows :=
  fun _ r h => ⟨r, h, .refl r, fun _ => rfl⟩

theorem Continues.trans {rows rows' rows'' : List JobRow} (h : Continues rows rows')
    (h' : Continues rows' rows'') : Continues rows rows'' := by
  intro i r hr
  obtain ⟨r', hr', same, kept⟩ := h i r hr
  obtain ⟨r'', hr'', same', kept'⟩ := h' i r' hr'
  refine ⟨r'', hr'', same.trans same', fun ended => ?_⟩
  obtain rfl := kept ended
  exact kept' ended

/-- **Every change** continues the table. -/
theorem continues_apply (ch : JobChange) (rows : List JobRow) : Continues rows (ch.apply rows) :=
  fun _ r hr => ⟨ch.onRow r, JobChange.getElem?_apply hr, JobChange.onRow_sameJob ch r,
    JobChange.onRow_of_isTerminal ch⟩

/-- **No call loses a row,** and so no list of calls does. -/
theorem continues_after {s : Store} (sound : Sound s.jobs.rows) (calls : List Call) :
    Continues s.jobs.rows (after calls s).jobs.rows := by
  induction calls generalizing s with
  | nil => exact .refl _
  | cons c calls ih =>
    obtain ⟨ch, changed, -⟩ := run_outcome sound c
    have step : Continues s.jobs.rows (c.turn s).after.jobs.rows :=
      changed.rows ▸ continues_apply ch _
    exact step.trans (ih (sound.turn c))

/-- A row after a call has taken one of the four ways, or stayed; a new one waits. -/
theorem status_after_turn {s : Store} (sound : Sound s.jobs.rows) (c : Call) {i : Nat}
    {r' : JobRow} (h : (c.turn s).after.jobs.rows[i]? = some r') :
    match s.jobs.rows[i]? with
    | some r => r'.status = r.status ∨ r.status.Moves r'.status
    | none => r'.status = .scheduled := by
  obtain ⟨ch, changed, -⟩ := run_outcome sound c
  rw [changed.rows] at h
  split
  next r hr =>
    rw [JobChange.getElem?_apply hr] at h
    exact Option.some.inj h ▸ JobChange.onRow_moves changed.allowed r
  next hr =>
    rw [List.getElem?_eq_none_iff] at hr
    rw [JobChange.apply, List.getElem?_append_right (by simpa using hr)] at h
    obtain ⟨-, _, _, _, _, _, _, rfl⟩ :=
      JobChange.added_scheduled changed.allowed (List.mem_of_getElem? h)
    rfl

/-! ## Who holds a running job -/

/-- The worker and the server that an answer hands the job of an id to. -/
def taker? (id : JobId) : Call → Except Error Reply → Option (WorkerToken × InstanceToken)
  | .claimNext server worker _, .ok (.handed (some job)) =>
    if job.id = id then some (worker, server) else none
  | _, _ => none

/-- The worker and the server that the job of an id was last handed to. -/
def lastTaker? (h : List Turn) (id : JobId) : Option (WorkerToken × InstanceToken) :=
  (h.filterMap fun t => taker? id t.call t.answer).getLast?

/-- After one more turn the last taker is the one of that turn, or the one before. -/
theorem lastTaker?_turn (h : List Turn) (c : Call) (s : Store) (id : JobId) :
    lastTaker? (h ++ [c.turn s]) id = (taker? id c (c.turn s).answer).or (lastTaker? h id) := by
  have call : (c.turn s).call = c := rfl
  unfold lastTaker?
  cases ht : taker? id c (c.turn s).answer <;> simp [call, ht]

variable {rows : List JobRow} {c : Call} {answer : Except Error Reply}

/-- A job that runs is handed to nobody. -/
theorem Outcome.taker?_of_running {ch : JobChange} (outcome : Outcome rows c answer ch)
    (keyed : Keyed rows) {r : JobRow} (hr : r ∈ rows) (run : r.status = .running) :
    taker? r.id c answer = none := by
  cases outcome with
  | failed c e => cases c <;> rfl
  | handed mem waits read =>
    refine if_neg fun same => ?_
    rw [JobRow.id_of_job? read] at same
    rw [keyed.eq_of_id mem hr same] at waits
    simp [JobRow.isClaimable, run] at waits
  | _ => rfl

/-- A claim hands its job to its worker. -/
theorem Outcome.taker?_of_claim {id : JobId} {worker : WorkerToken} {server : InstanceToken}
    {now : Timestamp} (outcome : Outcome rows c answer (.claim id worker server now)) :
    taker? id c answer = some (worker, server) := by
  cases outcome with
  | handed mem waits read => exact if_pos (JobRow.id_of_job? read)

/-- **A running row carries the tokens of its last taker,** by induction on the calls: the last one
either left the row alone, and handed it to nobody, or is the claim that took it. -/
theorem lastTaker?_of_running (supply : Supply) (calls : List Call) :
    ∀ r ∈ (after calls (empty supply)).jobs.rows, r.status = .running →
      lastTaker? (history calls (empty supply)) r.id = some (r.workerToken, r.serverToken) := by
  induction calls using List.reverseRecOn with
  | nil => simp [after, empty]
  | append_singleton calls c ih =>
    have sound := sound_after_empty supply calls
    obtain ⟨ch, changed, outcome⟩ := run_outcome sound c
    intro r' hr' run
    rw [after_append, after, after, changed.rows] at hr'
    rw [history_append, history, history, lastTaker?_turn]
    obtain ⟨r, hr, rfl⟩ | new := JobChange.mem_apply.1 hr'
    · obtain same | ⟨worker, server, now, rfl, -, taken⟩ :=
        JobChange.onRow_of_running run changed.allowed
      · rw [same] at run ⊢
        rw [outcome.taker?_of_running sound.keyed hr run]
        exact ih r hr run
      · rw [JobChange.onRow_id, outcome.taker?_of_claim, taken]
        rfl
    · obtain ⟨-, _, _, _, _, _, _, rfl⟩ := JobChange.added_scheduled changed.allowed new
      simp [JobRow.scheduled] at run

/-! ## The whole life -/

/-- **The life of a job.**  From the empty store, after any calls: the rows stay in their places,
each the same job, and are untouched once over, whatever is called further; no id is there twice;
the next call moves a status along one of the four ways only, and new rows wait; an error is on
record for failed jobs only, a waiting row has no worker token, and a running row has the tokens
of the claim that took it last. -/
theorem job_lifecycle (supply : Supply) (calls more : List Call) (c : Call) :
    let s := after calls (empty supply)
    Continues s.jobs.rows (after more s).jobs.rows ∧
      (s.jobs.rows.map JobRow.id).Nodup ∧
      (∀ (i : Nat) (r' : JobRow), (c.turn s).after.jobs.rows[i]? = some r' →
        match s.jobs.rows[i]? with
        | some r => r'.status = r.status ∨ r.status.Moves r'.status
        | none => r'.status = .scheduled) ∧
      ∀ r ∈ s.jobs.rows, (r.error ≠ "" → r.status = .failed) ∧
        (r.status = .scheduled → r.workerToken = "") ∧
        (r.status = .running → lastTaker? (history calls (empty supply)) r.id =
          some (r.workerToken, r.serverToken)) := by
  intro s
  have sound : Sound s.jobs.rows := sound_after_empty supply calls
  refine ⟨continues_after sound more, sound.keyed, fun i r' h => status_after_turn sound c h,
    fun r hr => ⟨(sound.tidy r hr).error, (sound.tidy r hr).worker, ?_⟩⟩
  exact lastTaker?_of_running supply calls r hr

end Queue
end Casework
