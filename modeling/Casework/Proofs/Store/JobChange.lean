/-
# What one statement does to the job table

| change | rows it meets | what becomes of them |
| --- | --- | --- |
| `queue` | none | a new waiting row comes last |
| `claim` | the waiting row of an id | it runs under a worker and a server |
| `finish` | the running row of an id | it is over |
| `release` | the rows that run under a worker | they wait again |
| `recover` | the rows that run under another server | they wait again |

A change rewrites each row on its own (`onRow`) and may add one at the end (`added`), so that a
row never loses its place.  What becomes of a row is one of five things (`Rewrites`), and the rest
follows by cases: a row stays the same job (`onRow_sameJob`), its status takes one of four ways
(`onRow_moves`), and a row that is over is not touched (`onRow_of_isTerminal`).  That the operations
of the store make such changes and no others is shown in `Casework.Proofs.Store.Operations`.
-/

import Casework.Store.Jobs
import Mathlib

namespace Casework

/-- What one statement does to the job table. -/
inductive JobChange where
  | idle
  | queue (row : JobRow)
  | claim (id : JobId) (worker : WorkerToken) (server : InstanceToken) (now : Timestamp)
  | finish (id : JobId) (status : JobStatus) (error : String) (now : Timestamp)
  | release (worker : WorkerToken) (now : Timestamp)
  | recover (server : InstanceToken) (now : Timestamp)

/-- The ways that the status of a job can take. -/
inductive JobStatus.Moves : JobStatus → JobStatus → Prop where
  | claimed : Moves .scheduled .running
  | succeeded : Moves .running .success
  | failed : Moves .running .failed
  | givenBack : Moves .running .scheduled

/-- Two rows of one job: what is fixed when a job is queued is the same. -/
structure JobRow.SameJob (r r' : JobRow) : Prop where
  id : r'.id = r.id
  caseId : r'.caseId = r.caseId
  evidenceId : r'.evidenceId = r.evidenceId
  moduleName : r'.moduleName = r.moduleName
  createdAt : r'.createdAt? = r.createdAt?

theorem JobRow.SameJob.refl (r : JobRow) : r.SameJob r := ⟨rfl, rfl, rfl, rfl, rfl⟩

theorem JobRow.SameJob.trans {r r' r'' : JobRow} (h : r.SameJob r') (h' : r'.SameJob r'') :
    r.SameJob r'' :=
  ⟨h'.id.trans h.id, h'.caseId.trans h.caseId, h'.evidenceId.trans h.evidenceId,
    h'.moduleName.trans h.moduleName, h'.createdAt.trans h.createdAt⟩

/-- An error is on record for a failed job only, and a waiting job has no worker. -/
structure JobRow.Tidy (r : JobRow) : Prop where
  error : r.error ≠ "" → r.status = .failed
  worker : r.status = .scheduled → r.workerToken = ""

/-- A row can be claimed if it waits for one of the modules. -/
theorem JobRow.isClaimable_iff {modules : List String} {r : JobRow} :
    r.isClaimable modules = true ↔ r.status = .scheduled ∧ r.moduleName ∈ modules := by
  simp [JobRow.isClaimable]

/-- A worker holds the rows that run under its token. -/
theorem JobRow.isHeldBy_iff {worker : WorkerToken} {r : JobRow} :
    r.isHeldBy worker = true ↔ r.workerToken = worker ∧ r.status = .running := by
  simp [JobRow.isHeldBy]

/-- A row is stale if it runs under another server. -/
theorem JobRow.isStale_iff {server : InstanceToken} {r : JobRow} :
    r.isStale server = true ↔ r.serverToken ≠ server ∧ r.status = .running := by
  simp [JobRow.isStale]

/-- The job that is read from a row is the row's. -/
theorem JobRow.of_job? {r : JobRow} {job : Job} (read : r.job? = some job) :
    job.id = r.id ∧ job.caseId = r.caseId ∧ job.evidenceId = r.evidenceId ∧
      job.moduleName = r.moduleName ∧ job.status = r.status ∧ job.error = r.error := by
  unfold JobRow.job? at read
  split at read
  · obtain rfl := Option.some.inj read
    exact ⟨rfl, rfl, rfl, rfl, rfl, rfl⟩
  · simp at read

/-- A job has the id of its row. -/
theorem JobRow.id_of_job? {r : JobRow} {job : Job} (read : r.job? = some job) : job.id = r.id :=
  (JobRow.of_job? read).1

/-- A job has the worker token of its row. -/
theorem JobRow.workerToken_of_job? {r : JobRow} {job : Job} (read : r.job? = some job) :
    job.workerToken = r.workerToken := by
  unfold JobRow.job? at read
  split at read
  · obtain rfl := Option.some.inj read
    rfl
  · cases read

/-- A claimed row can be read if it says when its job was queued. -/
theorem JobRow.read_claimed {r : JobRow} (readable : r.createdAt?.isSome = true)
    (worker : WorkerToken) (server : InstanceToken) (now : Timestamp) :
    ∃ job, (r.claimed worker server now).job? = some job := by
  obtain ⟨created, queued⟩ := Option.isSome_iff_exists.1 readable
  exact ⟨_, by simp only [JobRow.job?, JobRow.claimed, queued]; rfl⟩

/-- No two jobs have one id: the key of the job table. -/
def Keyed (rows : List JobRow) : Prop := (rows.map JobRow.id).Nodup

/-- In a table with a key an id names one row. -/
theorem Keyed.eq_of_id {rows : List JobRow} (h : Keyed rows) {r r' : JobRow} (hr : r ∈ rows)
    (hr' : r' ∈ rows) (same : r.id = r'.id) : r = r' :=
  List.inj_on_of_nodup_map h hr hr' same

/-- In a table with a key, no other row has the id. -/
theorem Keyed.id_ne {front back : List JobRow} {r : JobRow} (keyed : Keyed (front ++ r :: back))
    {x : JobRow} (hx : x ∈ front ++ back) : x.id ≠ r.id := by
  rw [Keyed, List.map_append, List.map_cons, List.nodup_middle, List.nodup_cons] at keyed
  intro same
  exact keyed.1 (by simpa [same] using List.mem_map_of_mem (f := JobRow.id) hx)

namespace JobChange

/-- What becomes of a row. -/
def onRow : JobChange → JobRow → JobRow
  | .idle, r => r
  | .queue _, r => r
  | .claim id worker server now, r =>
    if r.id = id ∧ r.status = .scheduled then r.claimed worker server now else r
  | .finish id status error now, r =>
    if r.id = id ∧ r.status = .running then r.finished status error now else r
  | .release worker now, r => if r.isHeldBy worker then r.released now else r
  | .recover server now, r => if r.isStale server then r.recovered server now else r

/-- The rows that come in. -/
def added : JobChange → List JobRow
  | .queue row => [row]
  | _ => []

/-- The table after the change. -/
def apply (ch : JobChange) (rows : List JobRow) : List JobRow := rows.map ch.onRow ++ ch.added

/-- The change can be made to these rows: a new row is a waiting one with an id of its own, a
claimed one waits, and a job ends as a success without an error or as a failure. -/
def Allowed (rows : List JobRow) : JobChange → Prop
  | .queue row => row.id ∉ rows.map JobRow.id ∧
      ∃ id caseId evidenceId moduleName server now,
        row = JobRow.scheduled id caseId evidenceId moduleName server now
  | .claim id _ _ _ => ∃ r ∈ rows, r.id = id ∧ r.status = .scheduled
  | .finish _ status error _ => status.isTerminal = true ∧ (status = .success → error = "")
  | _ => True

variable {ch : JobChange} {rows : List JobRow} {r : JobRow}

@[simp] theorem apply_idle (rows : List JobRow) : idle.apply rows = rows := by
  have h : idle.onRow = id := rfl
  simp [apply, added, h]

@[simp] theorem apply_queue (row : JobRow) (rows : List JobRow) :
    (queue row).apply rows = rows ++ [row] := by
  have h : (queue row).onRow = id := rfl
  simp [apply, added, h]

/-! ## One row -/

/-- What a change can make of a row: it lets it be, or it goes by one rule of `JobRow`. -/
inductive Rewrites : JobChange → JobRow → JobRow → Prop where
  | stays (ch : JobChange) (r : JobRow) : Rewrites ch r r
  | claimed {r : JobRow} (waits : r.status = .scheduled) (worker : WorkerToken)
      (server : InstanceToken) (now : Timestamp) :
      Rewrites (.claim r.id worker server now) r (r.claimed worker server now)
  | finished {r : JobRow} (runs : r.status = .running) (status : JobStatus) (error : String)
      (now : Timestamp) : Rewrites (.finish r.id status error now) r (r.finished status error now)
  | released {r : JobRow} (runs : r.status = .running) (now : Timestamp) :
      Rewrites (.release r.workerToken now) r (r.released now)
  | recovered {r : JobRow} {server : InstanceToken} (runs : r.status = .running)
      (now : Timestamp) : Rewrites (.recover server now) r (r.recovered server now)

/-- **Every row goes by one of the rules,** or stays as it is. -/
theorem onRow_rewrites (ch : JobChange) (r : JobRow) : ch.Rewrites r (ch.onRow r) := by
  cases ch with
  | idle => exact .stays _ r
  | queue row => exact .stays _ r
  | claim id worker server now =>
    by_cases h : r.id = id ∧ r.status = .scheduled
    · obtain ⟨rfl, waits⟩ := h
      simpa [onRow, waits] using Rewrites.claimed waits worker server now
    · simpa [onRow, h] using Rewrites.stays _ r
  | finish id status error now =>
    by_cases h : r.id = id ∧ r.status = .running
    · obtain ⟨rfl, runs⟩ := h
      simpa [onRow, runs] using Rewrites.finished runs status error now
    · simpa [onRow, h] using Rewrites.stays _ r
  | release worker now =>
    by_cases h : r.isHeldBy worker = true
    · obtain ⟨rfl, runs⟩ := JobRow.isHeldBy_iff.1 h
      simpa [onRow, h] using Rewrites.released runs now
    · simpa [onRow, h] using Rewrites.stays _ r
  | recover server now =>
    by_cases h : r.isStale server = true
    · obtain ⟨-, runs⟩ := JobRow.isStale_iff.1 h
      simpa [onRow, h] using Rewrites.recovered runs now
    · simpa [onRow, h] using Rewrites.stays _ r

/-- **A row stays the same job,** whatever is done to the table. -/
theorem onRow_sameJob (ch : JobChange) (r : JobRow) : r.SameJob (ch.onRow r) := by
  have h := onRow_rewrites ch r
  generalize ch.onRow r = r' at h ⊢
  cases h <;> exact ⟨rfl, rfl, rfl, rfl, rfl⟩

@[simp] theorem onRow_id (ch : JobChange) (r : JobRow) : (ch.onRow r).id = r.id :=
  (onRow_sameJob ch r).id

@[simp] theorem onRow_moduleName (ch : JobChange) (r : JobRow) :
    (ch.onRow r).moduleName = r.moduleName :=
  (onRow_sameJob ch r).moduleName

/-- **A row that is over is not touched.** -/
theorem onRow_of_isTerminal (ch : JobChange) (ended : r.status.isTerminal = true) :
    ch.onRow r = r := by
  have h := onRow_rewrites ch r
  generalize ch.onRow r = r' at h ⊢
  cases h with
  | stays => rfl
  | claimed waits worker server now => simp [waits, JobStatus.isTerminal] at ended
  | finished runs status error now => simp [runs, JobStatus.isTerminal] at ended
  | released runs now => simp [runs, JobStatus.isTerminal] at ended
  | recovered runs now => simp [runs, JobStatus.isTerminal] at ended

/-- **A status takes one of four ways,** or stays. -/
theorem onRow_moves (allowed : ch.Allowed rows) (r : JobRow) :
    (ch.onRow r).status = r.status ∨ r.status.Moves (ch.onRow r).status := by
  have h := onRow_rewrites ch r
  generalize ch.onRow r = r' at h ⊢
  cases h with
  | stays => exact .inl rfl
  | claimed waits worker server now =>
    rw [waits]
    exact .inr .claimed
  | finished runs status error now =>
    rw [runs]
    obtain ⟨ended, -⟩ := allowed
    cases status with
    | scheduled => simp [JobStatus.isTerminal] at ended
    | running => simp [JobStatus.isTerminal] at ended
    | failed => exact .inr .failed
    | success => exact .inr .succeeded
  | released runs now =>
    rw [runs]
    exact .inr .givenBack
  | recovered runs now =>
    rw [runs]
    exact .inr .givenBack

/-- A tidy row stays tidy. -/
theorem onRow_tidy (allowed : ch.Allowed rows) (tidy : r.Tidy) : (ch.onRow r).Tidy := by
  have clean (open_ : r.status ≠ .failed) : r.error = "" := by
    by_contra ne
    exact open_ (tidy.error ne)
  have h := onRow_rewrites ch r
  generalize ch.onRow r = r' at h ⊢
  cases h with
  | stays => exact tidy
  | claimed waits worker server now =>
    exact ⟨fun ne => absurd (clean (by simp [waits])) ne, nofun⟩
  | finished runs status error now =>
    obtain ⟨ended, fine⟩ := allowed
    cases status with
    | scheduled => simp [JobStatus.isTerminal] at ended
    | running => simp [JobStatus.isTerminal] at ended
    | failed => exact ⟨fun _ => rfl, nofun⟩
    | success => exact ⟨fun ne => absurd (fine rfl) ne, nofun⟩
  | released runs now => exact ⟨fun ne => absurd (clean (by simp [runs])) ne, fun _ => rfl⟩
  | recovered runs now => exact ⟨fun ne => absurd (clean (by simp [runs])) ne, fun _ => rfl⟩

/-- A row that waits can be claimed. -/
@[simp] theorem onRow_claim (worker : WorkerToken) (server : InstanceToken) (now : Timestamp)
    (waits : r.status = .scheduled) :
    (claim r.id worker server now).onRow r = r.claimed worker server now := by
  simp [onRow, waits]

/-- A row that runs was there as it is, or has just been claimed. -/
theorem onRow_of_running (runs : (ch.onRow r).status = .running) (allowed : ch.Allowed rows) :
    ch.onRow r = r ∨ ∃ worker server now, ch = .claim r.id worker server now ∧
      r.status = .scheduled ∧ ch.onRow r = r.claimed worker server now := by
  have h := onRow_rewrites ch r
  generalize ch.onRow r = r' at h runs ⊢
  cases h with
  | stays => exact .inl rfl
  | claimed waits worker server now => exact .inr ⟨worker, server, now, rfl, waits, rfl⟩
  | finished _ status error now =>
    obtain rfl : status = .running := runs
    simp [Allowed, JobStatus.isTerminal] at allowed
  | released _ now => simp [JobRow.released] at runs
  | recovered _ now => simp [JobRow.recovered] at runs

/-- A row that does not wait keeps its worker and does not wait, unless it was given back. -/
theorem onRow_of_not_scheduled (ch : JobChange) (busy : r.status ≠ .scheduled)
    (allowed : ch.Allowed rows) :
    ((ch.onRow r).workerToken = r.workerToken ∧ (ch.onRow r).status ≠ .scheduled) ∨
      (r.status = .running ∧ (ch.onRow r).status = .scheduled ∧
        ((∃ now, ch = .release r.workerToken now) ∨ ∃ server now, ch = .recover server now)) := by
  have h := onRow_rewrites ch r
  generalize ch.onRow r = r' at h ⊢
  cases h with
  | stays => exact .inl ⟨rfl, busy⟩
  | claimed waits worker server now => exact absurd waits busy
  | finished runs status error now =>
    refine .inl ⟨rfl, ?_⟩
    rintro (rfl : status = .scheduled)
    simp [Allowed, JobStatus.isTerminal] at allowed
  | released runs now => exact .inr ⟨runs, rfl, .inl ⟨now, rfl⟩⟩
  | @recovered _ server runs now => exact .inr ⟨runs, rfl, .inr ⟨server, now, rfl⟩⟩

/-- A row that comes in is a waiting one, with an id of its own. -/
theorem added_scheduled (allowed : ch.Allowed rows) (h : r ∈ ch.added) :
    r.id ∉ rows.map JobRow.id ∧ ∃ id caseId evidenceId moduleName server now,
      r = JobRow.scheduled id caseId evidenceId moduleName server now := by
  cases ch with
  | queue row => exact List.mem_singleton.1 h ▸ allowed
  | _ => exact absurd h List.not_mem_nil

/-! ## The table -/

/-- A row of the new table was one of the old, changed, or is new. -/
theorem mem_apply {r' : JobRow} :
    r' ∈ ch.apply rows ↔ (∃ r ∈ rows, ch.onRow r = r') ∨ r' ∈ ch.added := by
  simp [apply]

/-- A row that was there is there as it has become. -/
theorem onRow_mem_apply (h : r ∈ rows) : ch.onRow r ∈ ch.apply rows :=
  mem_apply.2 (.inl ⟨r, h, rfl⟩)

/-- A row that was there is in its place, as it has become. -/
theorem getElem?_apply {i : ℕ} (h : rows[i]? = some r) :
    (ch.apply rows)[i]? = some (ch.onRow r) := by
  obtain ⟨hi, rfl⟩ := List.getElem?_eq_some_iff.1 h
  simp [apply, List.getElem?_append_left, hi]

/-- The ids are the old ones and then the new. -/
theorem map_id_apply (ch : JobChange) (rows : List JobRow) :
    (ch.apply rows).map JobRow.id = rows.map JobRow.id ++ ch.added.map JobRow.id := by
  simp [apply, Function.comp_def]

/-- **The key of the table is kept.** -/
theorem keyed_apply (allowed : ch.Allowed rows) (h : Keyed rows) : Keyed (ch.apply rows) := by
  rw [Keyed, map_id_apply]
  cases ch with
  | queue row =>
    obtain ⟨new, -⟩ := allowed
    exact List.nodup_append.2 ⟨h, by simp [added], fun a ha b hb => by
      rw [added, List.map_singleton, List.mem_singleton] at hb
      exact fun e => new (hb ▸ e ▸ ha)⟩
  | _ => simpa [added, Keyed] using h

/-- A row that runs did so before, or has just been claimed. -/
theorem running_of_mem_apply {r' : JobRow} (h : r' ∈ ch.apply rows) (runs : r'.status = .running)
    (allowed : ch.Allowed rows) :
    r' ∈ rows ∨ ∃ r ∈ rows, ∃ worker server now, ch = .claim r.id worker server now ∧
      r' = r.claimed worker server now := by
  obtain ⟨r, hr, rfl⟩ | new := mem_apply.1 h
  · obtain same | ⟨worker, server, now, rfl, -, claimed⟩ := onRow_of_running runs allowed
    · rw [same]
      exact .inl hr
    · exact .inr ⟨r, hr, worker, server, now, rfl, claimed⟩
  · obtain ⟨-, _, _, _, _, _, _, rfl⟩ := added_scheduled allowed new
    exact absurd runs (by simp [JobRow.scheduled])

/-- A worker that gave its jobs back holds none. -/
theorem running_of_mem_release {r' : JobRow} {worker : WorkerToken} {now : Timestamp}
    (h : r' ∈ (release worker now).apply rows) (runs : r'.status = .running) :
    r' ∈ rows ∧ r'.workerToken ≠ worker := by
  obtain ⟨r, hr, rfl⟩ | new := mem_apply.1 h
  · by_cases held : r.isHeldBy worker = true
    · simp [onRow, held, JobRow.released] at runs
    · have same : (release worker now).onRow r = r := by simp [onRow, held]
      rw [same] at runs ⊢
      exact ⟨hr, fun e => held (JobRow.isHeldBy_iff.2 ⟨e, runs⟩)⟩
  · exact absurd new List.not_mem_nil

/-- After a server's recovery nothing runs under another server. -/
theorem running_of_mem_recover {r' : JobRow} {server : InstanceToken} {now : Timestamp}
    (h : r' ∈ (recover server now).apply rows) (runs : r'.status = .running) :
    r' ∈ rows ∧ r'.serverToken = server := by
  obtain ⟨r, hr, rfl⟩ | new := mem_apply.1 h
  · by_cases stale : r.isStale server = true
    · simp [onRow, stale, JobRow.recovered] at runs
    · have same : (recover server now).onRow r = r := by simp [onRow, stale]
      rw [same] at runs ⊢
      refine ⟨hr, ?_⟩
      by_contra other
      exact stale (JobRow.isStale_iff.2 ⟨other, runs⟩)
  · exact absurd new List.not_mem_nil

end JobChange
end Casework
