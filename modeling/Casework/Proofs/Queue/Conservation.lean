/-
# Every claim is accounted for

Whoever calls, and in whatever order: a job that was handed out is handed out again only after a
release has put it back (`released_between`), and never once a report on it was applied
(`ended_after_report`).  Counting over the whole history, every claim that handed a job out was
answered by one report that was applied, or by one job that a release counted, or its job still
runs (`handedOut_eq`).

Both rest on the status of one id along the history: a claim finds it waiting, a report finds it
running, a job that runs goes on running until it is released or over, and over is for ever.
-/

import Casework.Proofs.Queue.History

namespace Casework
namespace Queue

/-- The job of an id is there with a status. -/
def IsAt (rows : List JobRow) (id : JobId) (status : JobStatus) : Prop :=
  ∃ r ∈ rows, r.id = id ∧ r.status = status

/-- The job of an id is over. -/
def IsOver (rows : List JobRow) (id : JobId) : Prop :=
  ∃ r ∈ rows, r.id = id ∧ r.status.isTerminal = true

/-- The turn hands the job of an id out. -/
def Turn.Claims (id : JobId) (t : Turn) : Prop :=
  ∃ job, t.answer = .ok (.handed (some job)) ∧ job.id = id

/-- The turn is a report on an id that was applied. -/
def Turn.Finishes (id : JobId) (t : Turn) : Prop :=
  (∃ status error, t.call = .ack id status error) ∧ t.answer = .ok (.applied true)

/-- The turn is a release that puts the job of an id back. -/
def Turn.PutsBack (id : JobId) (t : Turn) : Prop :=
  ((∃ worker, t.call = .releaseWorker worker) ∨ ∃ server, t.call = .releaseStale server) ∧
    IsAt t.before.jobs.rows id .running ∧ IsAt t.after.jobs.rows id .scheduled

/-- The turn hands a job out. -/
def Turn.handsOut (t : Turn) : Bool :=
  match t.answer with
  | .ok (.handed (some _)) => true
  | _ => false

/-- The turn is a report that was applied. -/
def Turn.isApplied (t : Turn) : Bool :=
  match t.answer with
  | .ok (.applied changed) => changed
  | _ => false

/-- How many jobs a turn says it has put back. -/
def Turn.released (t : Turn) : Nat :=
  match t.answer with
  | .ok (.released count) => count
  | _ => 0

/-- The row runs. -/
def isRunning (r : JobRow) : Bool := r.status == .running

/-- In a table with a key a job has one status. -/
theorem IsAt.unique {rows : List JobRow} (keyed : Keyed rows) {id : JobId} {a b : JobStatus}
    (ha : IsAt rows id a) (hb : IsAt rows id b) : a = b := by
  obtain ⟨r, hr, hid, rfl⟩ := ha
  obtain ⟨r', hr', hid', rfl⟩ := hb
  rw [keyed.eq_of_id hr hr' (hid.trans hid'.symm)]

/-- A job that waits or runs is not over. -/
theorem IsAt.not_ended {rows : List JobRow} (keyed : Keyed rows) {id : JobId} {a : JobStatus}
    (ha : IsAt rows id a) (live : a.isTerminal = false) : ¬ IsOver rows id := by
  rintro ⟨r, hr, hid, ended⟩
  rw [IsAt.unique keyed ⟨r, hr, hid, rfl⟩ ha, live] at ended
  exact Bool.false_ne_true ended

/-! ## One turn -/

variable {s : Store} {c : Call} {id : JobId}

/-- A claim finds its job waiting and leaves it running. -/
theorem Turn.Claims.status (sound : Sound s.jobs.rows) (h : (c.turn s).Claims id) :
    IsAt s.jobs.rows id .scheduled ∧ IsAt (c.turn s).after.jobs.rows id .running := by
  obtain ⟨ch, changed, outcome⟩ := run_outcome sound c
  obtain ⟨job, answer, rfl⟩ := h
  rw [answer] at outcome
  cases outcome with
  | handed mem waits read =>
    have scheduled := (JobRow.isClaimable_iff.1 waits).1
    rw [JobRow.id_of_job? read, changed.rows]
    exact ⟨⟨_, mem, rfl, scheduled⟩, _, JobChange.onRow_mem_apply mem, JobChange.onRow_id ..,
      by rw [JobChange.onRow_claim _ _ _ scheduled]; rfl⟩

/-- A report that is applied ends a job that ran. -/
theorem Outcome.finishes {rows : List JobRow} {answer : Except Error Reply} {ch : JobChange}
    {status : JobStatus} {error : String} (outcome : Outcome rows c answer ch)
    (call : c = .ack id status error) (applied : answer = .ok (.applied true)) :
    IsAt rows id .running ∧ ∃ kept now, ch = .finish id status kept now := by
  cases outcome with
  | applied id status error kept now =>
    cases call
    refine ⟨?_, kept, now, rfl⟩
    simpa [IsAt] using applied
  | _ => cases applied

/-- A report that is applied finds its job running and leaves it over. -/
theorem Turn.Finishes.status (sound : Sound s.jobs.rows) (h : (c.turn s).Finishes id) :
    IsAt s.jobs.rows id .running ∧ IsOver (c.turn s).after.jobs.rows id := by
  obtain ⟨ch, changed, outcome⟩ := run_outcome sound c
  obtain ⟨⟨status, error, call⟩, answer⟩ := h
  obtain ⟨⟨r, hr, rfl, run⟩, kept, now, rfl⟩ := outcome.finishes call answer
  refine ⟨⟨r, hr, rfl, run⟩, _, changed.rows ▸ JobChange.onRow_mem_apply hr,
    JobChange.onRow_id .., ?_⟩
  simpa [JobChange.onRow, run, JobRow.finished] using changed.allowed.1

/-- What is over stays over. -/
theorem IsOver.turn (sound : Sound s.jobs.rows) (h : IsOver s.jobs.rows id) (c : Call) :
    IsOver (c.turn s).after.jobs.rows id := by
  obtain ⟨ch, changed, -⟩ := run_outcome sound c
  obtain ⟨r, hr, rfl, ended⟩ := h
  exact ⟨r, changed.rows ▸ JobChange.onRow_of_isTerminal ch ended ▸ JobChange.onRow_mem_apply hr,
    rfl, ended⟩

/-- Only a release puts a running row back. -/
theorem Outcome.release_of_putBack {rows : List JobRow} {answer : Except Error Reply}
    {ch : JobChange} (outcome : Outcome rows c answer ch) (allowed : ch.Allowed rows) {r : JobRow}
    (run : r.status = .running) (back : (ch.onRow r).status = .scheduled) :
    (∃ worker, c = .releaseWorker worker) ∨ ∃ server, c = .releaseStale server := by
  have busy : r.status ≠ .scheduled := by simp [run]
  obtain ⟨-, still⟩ | ⟨-, -, freed⟩ := JobChange.onRow_of_not_scheduled ch busy allowed
  · exact absurd back still
  · cases outcome with
    | released worker now => exact .inl ⟨worker, rfl⟩
    | recovered server now => exact .inr ⟨server, rfl⟩
    | _ => simp at freed

/-- A job that runs goes on running, or is over, unless the turn puts it back. -/
theorem IsAt.running_turn (sound : Sound s.jobs.rows) (h : IsAt s.jobs.rows id .running)
    (kept : ¬ (c.turn s).PutsBack id) :
    IsAt (c.turn s).after.jobs.rows id .running ∨ IsOver (c.turn s).after.jobs.rows id := by
  obtain ⟨ch, changed, outcome⟩ := run_outcome sound c
  obtain ⟨r, hr, rfl, run⟩ := h
  have there : ch.onRow r ∈ (c.turn s).after.jobs.rows :=
    changed.rows ▸ JobChange.onRow_mem_apply hr
  obtain same | moves := JobChange.onRow_moves changed.allowed r
  · exact .inl ⟨_, there, JobChange.onRow_id .., same.trans run⟩
  · rw [run] at moves
    generalize hs : (ch.onRow r).status = status at moves
    cases moves with
    | succeeded => exact .inr ⟨_, there, JobChange.onRow_id .., by rw [hs]; rfl⟩
    | failed => exact .inr ⟨_, there, JobChange.onRow_id .., by rw [hs]; rfl⟩
    | givenBack =>
      exact absurd ⟨outcome.release_of_putBack changed.allowed run hs, ⟨r, hr, rfl, run⟩,
        _, there, JobChange.onRow_id .., hs⟩ kept

/-! ## Many turns -/

/-- **A job that is over** stays so, whatever is called. -/
theorem IsOver.after (sound : Sound s.jobs.rows) (h : IsOver s.jobs.rows id) (calls : List Call) :
    IsOver (Queue.after calls s).jobs.rows id := by
  induction calls generalizing s with
  | nil => exact h
  | cons c calls ih => exact ih (sound.turn c) (h.turn sound c)

/-- A job that runs is never waiting again before a turn puts it back. -/
theorem IsAt.running_after (sound : Sound s.jobs.rows) (h : IsAt s.jobs.rows id .running)
    (calls : List Call) (kept : ∀ t ∈ history calls s, ¬ t.PutsBack id) :
    IsAt (Queue.after calls s).jobs.rows id .running ∨
      IsOver (Queue.after calls s).jobs.rows id := by
  induction calls generalizing s with
  | nil => exact .inl h
  | cons c calls ih =>
    obtain ⟨here, later⟩ := List.forall_mem_cons.1 kept
    obtain run | ended := h.running_turn sound here
    · exact ih (sound.turn c) run later
    · exact .inr (ended.after (sound.turn c) calls)

/-- **A release lies between two claims of a job.** -/
theorem released_between {supply : Supply} {calls : List Call} {front middle back : List Turn}
    {t u : Turn} (h : history calls (empty supply) = front ++ t :: (middle ++ u :: back))
    (first : t.Claims id) (second : u.Claims id) : ∃ m ∈ middle, m.PutsBack id := by
  obtain ⟨earlier, c, later, -, -, rfl, rest⟩ := history_split h
  obtain ⟨between, d, -, -, rfl, rfl, -⟩ := history_split rest.symm
  by_contra unreleased
  have kept : ∀ m ∈ history between (c.turn (after earlier (empty supply))).after,
      ¬ m.PutsBack id := fun m hm put => unreleased ⟨m, hm, put⟩
  have sound := sound_after_empty supply earlier
  have waits := (second.status ((sound.turn c).after between)).1
  have keyed := ((sound.turn c).after between).keyed
  obtain run | ended := ((first.status sound).2).running_after (sound.turn c) between kept
  · cases run.unique keyed waits
  · exact waits.not_ended keyed rfl ended

/-- **After a report that was applied** a job is neither handed out nor finished again. -/
theorem ended_after_report {supply : Supply} {calls : List Call} {front middle back : List Turn}
    {t u : Turn} (h : history calls (empty supply) = front ++ t :: (middle ++ u :: back))
    (finished : t.Finishes id) : ¬ u.Claims id ∧ ¬ u.Finishes id := by
  obtain ⟨earlier, c, later, -, -, rfl, rest⟩ := history_split h
  obtain ⟨between, d, -, -, -, rfl, -⟩ := history_split rest.symm
  have sound := sound_after_empty supply earlier
  have sound' := (sound.turn c).after between
  have ended := ((finished.status sound).2).after (sound.turn c) between
  exact ⟨fun claimed => (claimed.status sound').1.not_ended sound'.keyed rfl ended,
    fun again => (again.status sound').1.not_ended sound'.keyed rfl ended⟩

/-! ## Counting -/

/-- Rows that are counted once by `p` are counted by one of `q` and `q'`. -/
theorem countP_eq_add {p q q' : JobRow → Bool} {rows : List JobRow}
    (h : ∀ r ∈ rows, (p r).toNat = (q r).toNat + (q' r).toNat) :
    rows.countP p = rows.countP q + rows.countP q' := by
  induction rows with
  | nil => rfl
  | cons r rows ih =>
    obtain ⟨here, rest⟩ := List.forall_mem_cons.1 h
    simp only [List.countP_cons, ih rest]
    cases hp : p r <;> cases hq : q r <;> cases hq' : q' r <;>
      simp only [hp, hq, hq', Bool.toNat_true, Bool.toNat_false] at here <;> simp <;> omega

/-- In a table with a key at most one row of an id is counted. -/
theorem countP_of_keyed {rows : List JobRow} (keyed : Keyed rows) (id : JobId)
    (p : JobRow → Bool) : rows.countP (fun r => r.id == id && p r) =
      (rows.any fun r => r.id == id && p r).toNat := by
  have le : rows.countP (fun r => r.id == id && p r) ≤ 1 := calc
    _ ≤ rows.countP (fun r => r.id == id) :=
      List.countP_mono_left fun r _ h => (Bool.and_eq_true_iff.1 h).1
    _ = (rows.map JobRow.id).count id := by rw [List.count, List.countP_map]; rfl
    _ ≤ 1 := List.nodup_iff_count_le_one.1 keyed id
  cases any : rows.any fun r => r.id == id && p r with
  | true =>
    have pos := List.countP_pos_iff.2 (List.any_eq_true.1 any)
    exact Nat.le_antisymm le pos
  | false =>
    refine List.countP_eq_zero.2 fun r hr h => ?_
    exact Bool.false_ne_true (any ▸ List.any_eq_true.2 ⟨r, hr, h⟩)

/-- After a change the rows that were there are counted as they have become, and the new ones are
added. -/
theorem countP_apply (ch : JobChange) (rows : List JobRow) (p : JobRow → Bool) :
    (ch.apply rows).countP p = rows.countP (p ∘ ch.onRow) + ch.added.countP p := by
  rw [JobChange.apply, List.countP_append, List.countP_map]

/-- Rows that a change stops are counted no longer. -/
theorem countP_stopped {ch : JobChange} {p : JobRow → Bool} {f : JobRow → JobRow}
    (added : ch.added = []) (onRow : ∀ r, ch.onRow r = if p r then f r else r)
    (runs : ∀ r, p r = true → r.status = .running) (stops : ∀ r, (f r).status ≠ .running)
    (rows : List JobRow) :
    (ch.apply rows).countP isRunning + rows.countP p = rows.countP isRunning := by
  rw [countP_apply, added]
  refine (countP_eq_add fun r _ => ?_).symm
  by_cases h : p r = true
  · simp [isRunning, onRow, h, runs r h, stops r]
  · simp [isRunning, onRow, h]

/-- A claim makes one more row run. -/
theorem countP_claim {rows : List JobRow} (keyed : Keyed rows) {r : JobRow} (hr : r ∈ rows)
    (scheduled : r.status = .scheduled) (worker : WorkerToken) (server : InstanceToken)
    (now : Timestamp) :
    ((JobChange.claim r.id worker server now).apply rows).countP isRunning =
      rows.countP isRunning + 1 := by
  have gained : rows.countP (isRunning ∘ (JobChange.claim r.id worker server now).onRow) =
      rows.countP isRunning + rows.countP fun x => x.id == r.id && x.status == .scheduled := by
    refine countP_eq_add fun x _ => ?_
    by_cases h : x.id = r.id ∧ x.status = .scheduled
    · simp [isRunning, JobChange.onRow, h, JobRow.claimed]
    · have other : (x.id == r.id && x.status == .scheduled) = false := by simpa using not_and.1 h
      simp [isRunning, JobChange.onRow, h, other]
  have one : (rows.any fun x => x.id == r.id && x.status == .scheduled) = true :=
    List.any_eq_true.2 ⟨r, hr, by simp [scheduled]⟩
  rw [countP_apply, gained, countP_of_keyed keyed, one]
  rfl

/-- **One turn keeps the books:** a job that is handed out runs from then on, and one that a report
or a release takes back runs no longer. -/
theorem running_turn (sound : Sound s.jobs.rows) (c : Call) :
    (c.turn s).after.jobs.rows.countP isRunning + (c.turn s).isApplied.toNat +
      (c.turn s).released = s.jobs.rows.countP isRunning + (c.turn s).handsOut.toNat := by
  obtain ⟨ch, changed, outcome⟩ := run_outcome sound c
  rw [changed.rows, Turn.isApplied, Turn.released, Turn.handsOut]
  have allowed := changed.allowed
  generalize (c.turn s).answer = answer at outcome
  generalize s.jobs.rows = rows at *
  cases outcome with
  | failed c e => simp
  | nothing server worker modules => simp
  | queued read =>
    obtain ⟨-, _, _, _, _, _, _, rfl⟩ := allowed
    simp [isRunning, JobRow.scheduled]
  | handed mem waits read =>
    exact countP_claim sound.keyed mem (JobRow.isClaimable_iff.1 waits).1 ..
  | applied id status error kept now =>
    have ended : status ≠ .running := fun e => by
      simp [e, JobChange.Allowed, JobStatus.isTerminal] at allowed
    have stopped := @countP_stopped (.finish id status kept now)
      (fun r => r.id == id && r.status == .running) (JobRow.finished status kept now) rfl
      (fun r => by simp [JobChange.onRow]) (fun r h => by simpa using (Bool.and_eq_true_iff.1 h).2)
      (fun _ => ended) rows
    rwa [countP_of_keyed sound.keyed] at stopped
  | released worker now =>
    exact @countP_stopped (.release worker now) _ (JobRow.released now) rfl (fun _ => rfl)
      (fun _ h => (JobRow.isHeldBy_iff.1 h).2) (fun _ => by simp [JobRow.released]) rows
  | recovered server now =>
    exact @countP_stopped (.recover server now) _ (JobRow.recovered server now) rfl (fun _ => rfl)
      (fun _ h => (JobRow.isStale_iff.1 h).2) (fun _ => by simp [JobRow.recovered]) rows

/-- **Claims are conserved:** at every point of a history, the claims that handed a job out are as
many as the reports that were applied, the jobs that releases counted, and the jobs that run. -/
theorem handedOut_eq (supply : Supply) (calls : List Call) :
    (history calls (empty supply)).countP Turn.handsOut =
      (history calls (empty supply)).countP Turn.isApplied +
        ((history calls (empty supply)).map Turn.released).sum +
        (after calls (empty supply)).jobs.rows.countP isRunning := by
  have single (p : Turn → Bool) (t : Turn) : [t].countP p = (p t).toNat := by
    cases h : p t <;> simp [h]
  induction calls using List.reverseRecOn with
  | nil => rfl
  | append_singleton calls c ih =>
    have books := running_turn (sound_after_empty supply calls) c
    simp only [history_append, after_append, history, after, List.countP_append, List.map_append,
      List.sum_append, single, List.map_cons, List.map_nil, List.sum_singleton, ih]
    omega

/-- **Claims are exclusive and conserved.**  In every history from the empty store a release lies
between two claims of one job; a job is neither handed out nor finished again once a report on it
was applied; and the claims that handed a job out are as many as the reports that were applied,
the jobs that releases counted, and the jobs that run now. -/
theorem claims_exclusive_and_conserved (supply : Supply) (calls : List Call) :
    let h := history calls (empty supply)
    (∀ (id : JobId) (front middle back : List Turn) (t u : Turn),
      h = front ++ t :: (middle ++ u :: back) → t.Claims id →
        u.Claims id → ∃ m ∈ middle, m.PutsBack id) ∧
    (∀ (id : JobId) (front middle back : List Turn) (t u : Turn),
      h = front ++ t :: (middle ++ u :: back) → t.Finishes id →
        ¬ u.Claims id ∧ ¬ u.Finishes id) ∧
    h.countP Turn.handsOut = h.countP Turn.isApplied + (h.map Turn.released).sum +
      (after calls (empty supply)).jobs.rows.countP isRunning :=
  ⟨fun _ _ _ _ _ _ => released_between, fun _ _ _ _ _ _ => ended_after_report,
    handedOut_eq supply calls⟩

end Queue
end Casework
