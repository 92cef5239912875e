/-
# Every operation of the store is one change

`Store.Changed s ch s'` says that `s'` is `s` after the change `ch` of its job table, with the
other tables as they were and the supply of names not wound back.  For each operation on jobs
there is one statement: which change it makes, and what it answers then.  An operation that fails
makes none, save for a claim whose row cannot be read afterwards.  A report and the two releases
have one form (`rewriting`), and so one proof.

Looking a record up changes nothing, and what is saved in the other tables leaves the job table
alone (`Store.Aside`).
-/

import Casework.Proofs.Store.Computation
import Casework.Proofs.Store.JobChange

namespace Casework

/-- A supply after some use: it hands out the same names, and further ones. -/
structure Supply.Used (s s' : Supply) : Prop where
  ident : s'.ident = s.ident
  used : s.used ≤ s'.used

/-- A name that a supply has handed out. -/
def Supply.Drawn (s : Supply) (name : String) : Prop := ∃ k < s.used, s.ident k = name

namespace Supply

variable {s s' s'' : Supply} {name : String}

theorem Used.refl (s : Supply) : s.Used s := ⟨rfl, Nat.le_refl _⟩

theorem Used.trans (h : s.Used s') (h' : s'.Used s'') : s.Used s'' :=
  ⟨h'.ident.trans h.ident, Nat.le_trans h.used h'.used⟩

theorem used_now (s : Supply) : s.Used s.now.2 := ⟨rfl, Nat.le_refl _⟩

theorem used_next (s : Supply) : s.Used s.next.2 := ⟨rfl, Nat.le_succ _⟩

/-- A name that was drawn stays so. -/
theorem Used.drawn (h : s.Used s') (drawn : s.Drawn name) : s'.Drawn name := by
  obtain ⟨k, hk, rfl⟩ := drawn
  exact ⟨k, hk.trans_le h.used, by rw [h.ident]⟩

/-- What is left of a fresh supply is fresh. -/
theorem Used.fresh (h : s.Used s') (fresh : s.Fresh) : s'.Fresh := by
  rw [Fresh, h.ident]
  exact fresh

/-- The name that is drawn is drawn then. -/
theorem drawn_next (s : Supply) : s.next.2.Drawn s.next.1 := ⟨s.used, Nat.lt_succ_self _, rfl⟩

/-- The next name is a new one. -/
theorem Fresh.not_drawn_next (fresh : s.Fresh) : ¬ s.Drawn s.next.1 := by
  rintro ⟨k, hk, same⟩
  exact hk.ne (fresh _ _ same)

/-- The names `j`, `jj` and so on, and a clock that stands still. -/
def counting : Supply where
  ident n := String.ofList (List.replicate (n + 1) 'j')
  clock _ := .epoch

/-- A supply that counts is fresh. -/
theorem fresh_counting : counting.Fresh := by
  intro m n same
  simpa [counting] using congrArg String.length same

end Supply

namespace Store

/-- The store after a change of its job table. -/
structure Changed (s : Store) (ch : JobChange) (s' : Store) : Prop where
  allowed : ch.Allowed s.jobs.rows
  rows : s'.jobs.rows = ch.apply s.jobs.rows
  lost : s'.jobs.lost = s.jobs.lost
  cases : s'.cases = s.cases
  evidences : s'.evidences = s.evidences
  hooks : s'.hooks = s.hooks
  supply : s.supply.Used s'.supply

/-- The store after something that has nothing to do with jobs. -/
structure Aside (s s' : Store) : Prop where
  jobs : s'.jobs = s.jobs
  supply : s.supply.Used s'.supply

/-- A change leaves the table with its key. -/
theorem Changed.keyed {s s' : Store} {ch : JobChange} (h : s.Changed ch s')
    (keyed : Keyed s.jobs.rows) : Keyed s'.jobs.rows :=
  h.rows ▸ JobChange.keyed_apply h.allowed keyed

/-- A change of the clock and the names alone. -/
theorem changed_idle {s : Store} {supply : Supply} (h : s.supply.Used supply) :
    s.Changed .idle { s with supply := supply } :=
  ⟨trivial, (JobChange.apply_idle _).symm, rfl, rfl, rfl, rfl, h⟩

/-! ## Rewriting rows -/

/-- A change that adds nothing is made by rewriting every row. -/
theorem changeAll_eq_apply {p : JobRow → Bool} {f : JobRow → JobRow} {ch : JobChange}
    (added : ch.added = []) (onRow : ∀ r, ch.onRow r = if p r then f r else r)
    (rows : List JobRow) : changeAll p f rows = ch.apply rows := by
  rw [changeAll, JobChange.apply, added, List.append_nil]
  exact List.map_congr_left fun r _ => (onRow r).symm

/-- The first row that satisfies `p` is the one that is rewritten. -/
theorem changeFirst_eq_some {p : JobRow → Bool} {f : JobRow → JobRow} {rows rows' : List JobRow}
    {x : JobRow} (h : changeFirst p f rows = some (x, rows')) :
    ∃ front r back, rows = front ++ r :: back ∧ (∀ y ∈ front, p y = false) ∧ p r = true ∧
      x = f r ∧ rows' = front ++ f r :: back := by
  induction rows generalizing rows' with
  | nil => simp [changeFirst] at h
  | cons y rows ih =>
    rw [changeFirst] at h
    split at h
    next hp =>
      obtain ⟨rfl, rfl⟩ := Prod.mk.inj (Option.some.inj h)
      exact ⟨[], y, rows, rfl, by simp, hp, rfl, rfl⟩
    next hp =>
      obtain ⟨⟨z, rest⟩, hz, he⟩ := Option.map_eq_some_iff.1 h
      obtain ⟨rfl, rfl⟩ := Prod.mk.inj he
      obtain ⟨front, r, back, rfl, hf, hr, hx, rfl⟩ := ih hz
      exact ⟨y :: front, r, back, rfl, by simpa [hp] using hf, hr, hx, rfl⟩

/-- No row is changed if none is wanted. -/
theorem changeFirst_eq_none_iff {p : JobRow → Bool} {f : JobRow → JobRow} {rows : List JobRow} :
    changeFirst p f rows = none ↔ ∀ r ∈ rows, p r = false := by
  induction rows with
  | nil => simp [changeFirst]
  | cons r rows ih =>
    cases here : p r <;> simp [changeFirst, here, ih]

/-- Where one row alone satisfies `p`, it alone is rewritten. -/
theorem changeAll_only {p : JobRow → Bool} {f : JobRow → JobRow} {front back : List JobRow}
    {r : JobRow} (others : ∀ x ∈ front ++ back, p x = false) (own : p r = true) :
    changeAll p f (front ++ r :: back) = front ++ f r :: back := by
  have keep (l : List JobRow) (h : ∀ x ∈ l, p x = false) : changeAll p f l = l := by
    rw [changeAll, List.map_congr_left fun x hx => if_neg (by simp [h x hx])]
    exact List.map_id' l
  rw [changeAll, List.map_append, List.map_cons, if_pos own]
  exact congrArg₂ (· ++ f r :: ·) (keep front fun x hx => others x (List.mem_append_left _ hx))
    (keep back fun x hx => others x (List.mem_append_right _ hx))

/-- In a table with a key, rewriting one waiting row is a claim of its id. -/
theorem claim_apply {front back : List JobRow} {r : JobRow} (keyed : Keyed (front ++ r :: back))
    (waits : r.status = .scheduled) (worker : WorkerToken) (server : InstanceToken)
    (now : Timestamp) :
    (JobChange.claim r.id worker server now).apply (front ++ r :: back) =
      front ++ r.claimed worker server now :: back := by
  let due (x : JobRow) := x.id == r.id && x.status == .scheduled
  have onRow (x : JobRow) : (JobChange.claim r.id worker server now).onRow x =
      if due x then x.claimed worker server now else x := by simp [JobChange.onRow, due]
  rw [← changeAll_eq_apply rfl onRow]
  exact changeAll_only (fun x hx => by simp [due, keyed.id_ne hx]) (by simp [due, waits])

/-! ## The operations on jobs -/

/-- A job is looked for by its id, among the rows in reach. -/
theorem run_getJob (id : JobId) (s : Store) :
    getJob id s = if s.jobs.lost then (.error (lostTable .jobs), s) else
      match s.jobs.rows.find? fun r => r.id == id with
      | some r => (r.read, s)
      | none => (.error (.notFound ("job " ++ id)), s) := by
  unfold getJob
  by_cases lost : s.jobs.lost = true
  · simp [lost]
  · simp only [run_bind, run_jobRows, lost, if_false, Bool.false_eq_true]
    cases s.jobs.rows.find? fun r => r.id == id <;> simp

/-- A statement that looks at the clock and rewrites the rows that satisfy `p`. -/
def rewriting {α : Type} (p : JobRow → Bool) (f : Timestamp → JobRow → JobRow)
    (answer : List JobRow → α) : StoreM α := do
  let t ← now
  let rows ← jobRows
  putJobs (changeAll p (f t) rows)
  return answer rows

/-- Such a statement makes one change, or fails because the table is out of reach. -/
theorem rewriting_changed {α : Type} {p : JobRow → Bool} {f : Timestamp → JobRow → JobRow}
    {result : List JobRow → α} {s s' : Store} {answer : Except Error α}
    (ch : Timestamp → JobChange) (allowed : ∀ t, (ch t).Allowed s.jobs.rows)
    (added : ∀ t, (ch t).added = [])
    (onRow : ∀ t r, (ch t).onRow r = if p r then f t r else r)
    (h : rewriting p f result s = (answer, s')) :
    (s.jobs.lost = true ∧ s.Changed .idle s' ∧ ∃ e, answer = .error e) ∨
      (s.jobs.lost = false ∧ ∃ t, s.Changed (ch t) s' ∧ answer = .ok (result s.jobs.rows)) := by
  cases lost : s.jobs.lost with
  | true =>
    have run : rewriting p f result s =
        (.error (lostTable .jobs), { s with supply := s.supply.now.2 }) := by
      simp [rewriting, lost]
    obtain ⟨rfl, rfl⟩ := Prod.mk.inj (run.symm.trans h)
    exact .inl ⟨rfl, changed_idle (Supply.used_now _), _, rfl⟩
  | false =>
    have run : rewriting p f result s = (.ok (result s.jobs.rows), { s with
        supply := s.supply.now.2
        jobs := ⟨changeAll p (f s.supply.now.1) s.jobs.rows, false⟩ }) := by
      simp [rewriting, lost, Except.map]
    obtain ⟨rfl, rfl⟩ := Prod.mk.inj (run.symm.trans h)
    have rows := changeAll_eq_apply (added s.supply.now.1) (onRow s.supply.now.1) s.jobs.rows
    exact .inr ⟨rfl, _, ⟨allowed _, rows, lost.symm, rfl, rfl, rfl, Supply.used_now _⟩, rfl⟩

/-- What queueing does, run to its end: a name and a time are drawn, and the row goes to the end of
the table. -/
theorem run_enqueue {server : InstanceToken} {caseId evidenceId moduleName : String} {s : Store}
    (named : checkModuleName moduleName = .ok ()) (there : s.jobs.lost = false)
    (new : s.supply.next.1 ∉ s.jobs.rows.map JobRow.id) :
    let row := JobRow.scheduled s.supply.next.1 caseId evidenceId moduleName server
      s.supply.next.2.now.1
    enqueue server caseId evidenceId moduleName s =
      (row.read, { s with
        supply := s.supply.next.2.now.2
        jobs := ⟨s.jobs.rows ++ [row], false⟩ }) := by
  intro row
  have taken : ¬ ∃ r ∈ s.jobs.rows, r.id = s.supply.next.1 := by
    rintro ⟨r, hr, same⟩
    exact new (same ▸ List.mem_map_of_mem hr)
  have absent : s.jobs.rows.find? (fun r => r.id == s.supply.next.1) = none := by
    simpa using taken
  simp [enqueue, named, there, taken, run_getJob, absent, row, JobRow.scheduled]

/-- **Queueing** adds a waiting row for the item with the next name as its id, or fails and leaves
the tables as they are. -/
theorem enqueue_cases (server : InstanceToken) (caseId evidenceId moduleName : String) (s : Store) :
    (∃ e supply, s.supply.Used supply ∧
        (checkModuleName moduleName = .error e ∨ s.jobs.lost = true ∨
          s.supply.next.1 ∈ s.jobs.rows.map JobRow.id) ∧
        enqueue server caseId evidenceId moduleName s = (.error e, { s with supply := supply })) ∨
      ∃ row, row = JobRow.scheduled s.supply.next.1 caseId evidenceId moduleName server
          s.supply.next.2.now.1 ∧
        s.jobs.lost = false ∧ s.supply.next.1 ∉ s.jobs.rows.map JobRow.id ∧
        enqueue server caseId evidenceId moduleName s =
          (row.read, { s with
            supply := s.supply.next.2.now.2
            jobs := ⟨s.jobs.rows ++ [row], false⟩ }) := by
  have used := (Supply.used_next s.supply).trans (Supply.used_now s.supply.next.2)
  cases named : checkModuleName moduleName with
  | error e =>
    refine .inl ⟨e, s.supply, .refl _, .inl rfl, ?_⟩
    simp [enqueue, named]
  | ok u =>
    cases lost : s.jobs.lost with
    | true =>
      refine .inl ⟨lostTable .jobs, _, used, .inr (.inl rfl), ?_⟩
      simp [enqueue, named, lost]
    | false =>
      by_cases taken : s.supply.next.1 ∈ s.jobs.rows.map JobRow.id
      · refine .inl ⟨takenId, _, used, .inr (.inr taken), ?_⟩
        have held : ∃ r ∈ s.jobs.rows, r.id = s.supply.next.1 := by simpa using taken
        simp [enqueue, named, lost, held]
      · exact .inr ⟨_, rfl, rfl, taken, run_enqueue named lost taken⟩

/-- The new row is the only change. -/
theorem changed_queue {server : InstanceToken} {caseId evidenceId moduleName : String} {s : Store}
    (there : s.jobs.lost = false) (new : s.supply.next.1 ∉ s.jobs.rows.map JobRow.id) :
    let row := JobRow.scheduled s.supply.next.1 caseId evidenceId moduleName server
      s.supply.next.2.now.1
    s.Changed (.queue row) { s with
      supply := s.supply.next.2.now.2
      jobs := ⟨s.jobs.rows ++ [row], false⟩ } := by
  intro row
  have used := (Supply.used_next s.supply).trans (Supply.used_now s.supply.next.2)
  refine ⟨⟨new, _, _, _, _, _, _, rfl⟩, ?_, there.symm, rfl, rfl, rfl, used⟩
  rw [JobChange.apply_queue]

/-- Queueing as a change of the job table. -/
theorem enqueue_changed {server : InstanceToken} {caseId evidenceId moduleName : String}
    {s s' : Store} {answer : Except Error Job}
    (h : enqueue server caseId evidenceId moduleName s = (answer, s')) :
    ∃ ch, s.Changed ch s' ∧ ((ch = .idle ∧ ∃ e, answer = .error e) ∨
      ∃ row job, ch = .queue row ∧ row.job? = some job ∧ answer = .ok job) := by
  obtain ⟨e, supply, used, -, run⟩ | ⟨row, rfl, there, new, run⟩ :=
    enqueue_cases server caseId evidenceId moduleName s
  · obtain ⟨rfl, rfl⟩ := Prod.mk.inj (run.symm.trans h)
    exact ⟨.idle, changed_idle used, .inl ⟨rfl, e, rfl⟩⟩
  · obtain ⟨rfl, rfl⟩ := Prod.mk.inj (run.symm.trans h)
    exact ⟨.queue _, changed_queue there new, .inr ⟨_, _, rfl, rfl, rfl⟩⟩

/-- **A claim finds the first row** that waits for one of the modules, or no row does, or it is
refused. -/
theorem claimNext_cases (server : InstanceToken) (worker : WorkerToken) (modules : List String)
    (s : Store) :
    (∃ e supply, s.supply.Used supply ∧
        (checkModuleNames modules = .error e ∨ s.jobs.lost = true) ∧
        claimNext server worker modules s = (.error e, { s with supply := supply })) ∨
      (∃ supply, s.supply.Used supply ∧ (∀ r ∈ s.jobs.rows, r.isClaimable modules = false) ∧
        claimNext server worker modules s = (.ok none, { s with supply := supply })) ∨
      ∃ front r back, s.jobs.rows = front ++ r :: back ∧
        (∀ x ∈ front, x.isClaimable modules = false) ∧ r.isClaimable modules = true ∧
        s.jobs.lost = false ∧
        claimNext server worker modules s =
          ((r.claimed worker server s.supply.now.1).read.map some, { s with
            supply := s.supply.now.2
            jobs := ⟨front ++ r.claimed worker server s.supply.now.1 :: back, false⟩ }) := by
  have used := Supply.used_now s.supply
  cases named : checkModuleNames modules with
  | error e => exact .inl ⟨e, s.supply, .refl _, .inl rfl, by simp [claimNext, named]⟩
  | ok u =>
    by_cases empty : modules = []
    · refine .inr (.inl ⟨s.supply, .refl _, fun r _ => ?_, ?_⟩)
      · simp [JobRow.isClaimable, empty]
      · simp [claimNext, empty, checkModuleNames]
    cases lost : s.jobs.lost with
    | true =>
      refine .inl ⟨lostTable .jobs, s.supply.now.2, used, .inr rfl, ?_⟩
      simp [claimNext, named, empty, lost]
    | false =>
      cases first : changeFirst (JobRow.isClaimable modules)
        (JobRow.claimed worker server s.supply.now.1) s.jobs.rows with
      | none =>
        refine .inr (.inl ⟨s.supply.now.2, used, changeFirst_eq_none_iff.1 first, ?_⟩)
        simp [claimNext, named, empty, lost, first]
      | some changed =>
        obtain ⟨x, rows⟩ := changed
        obtain ⟨front, r, back, split, older, waits, rfl, rfl⟩ := changeFirst_eq_some first
        refine .inr (.inr ⟨front, r, back, split, older, waits, rfl, ?_⟩)
        simp [claimNext, named, empty, lost, first]

/-- **A claim** takes a waiting row of a module in the list for the worker, the first there is, or
changes nothing and hands no job out. -/
theorem claimNext_changed {server : InstanceToken} {worker : WorkerToken} {modules : List String}
    {s s' : Store} {answer : Except Error (Option Job)} (keyed : Keyed s.jobs.rows)
    (h : claimNext server worker modules s = (answer, s')) :
    ∃ ch, s.Changed ch s' ∧ ((ch = .idle ∧ ∀ job, answer ≠ .ok (some job)) ∨
      ∃ r ∈ s.jobs.rows, ∃ now, r.isClaimable modules = true ∧
        ch = .claim r.id worker server now ∧
        answer = (r.claimed worker server now).read.map some) := by
  obtain ⟨e, supply, used, -, run⟩ | ⟨supply, used, -, run⟩ |
    ⟨front, r, back, split, -, waits, there, run⟩ := claimNext_cases server worker modules s
  · obtain ⟨rfl, rfl⟩ := Prod.mk.inj (run.symm.trans h)
    exact ⟨.idle, changed_idle used, .inl ⟨rfl, by simp⟩⟩
  · obtain ⟨rfl, rfl⟩ := Prod.mk.inj (run.symm.trans h)
    exact ⟨.idle, changed_idle used, .inl ⟨rfl, by simp⟩⟩
  · obtain ⟨rfl, rfl⟩ := Prod.mk.inj (run.symm.trans h)
    have member : r ∈ s.jobs.rows := by simp [split]
    have scheduled := (JobRow.isClaimable_iff.1 waits).1
    refine ⟨.claim r.id worker server s.supply.now.1,
      ⟨⟨r, member, rfl, scheduled⟩, ?_, there.symm, rfl, rfl, rfl, Supply.used_now _⟩,
      .inr ⟨r, member, _, waits, rfl, rfl⟩⟩
    rw [split] at keyed ⊢
    exact (claim_apply keyed scheduled ..).symm

/-- **A report** finishes the running row of its id, with a tidy error, and says whether there was
one; it fails if its status is no end or the store fails. -/
theorem ack_changed {id : JobId} {status : JobStatus} {error : String} {s s' : Store}
    {answer : Except Error Bool} (h : ack id status error s = (answer, s')) :
    ∃ ch, s.Changed ch s' ∧ ((ch = .idle ∧ ∃ e, answer = .error e) ∨
      ∃ kept now, ch = .finish id status kept now ∧
        answer = .ok (s.jobs.rows.any fun r => r.id == id && r.status == .running)) := by
  by_cases ended : status.isTerminal = true
  · let kept := if status = .success then "" else error
    let due (r : JobRow) := r.id == id && r.status == .running
    have statement : ack id status error =
        rewriting due (fun t => JobRow.finished status kept t) fun rows => rows.any due := by
      unfold ack
      simp only [ended, Bool.not_true, Bool.false_eq_true, if_false]
      rfl
    rw [statement] at h
    obtain ⟨-, changed, e, rfl⟩ | ⟨-, t, changed, rfl⟩ := rewriting_changed
      (.finish id status kept) (fun _ => ⟨ended, fun fine => if_pos fine⟩)
      (fun _ => rfl) (fun t r => by simp [JobChange.onRow, due]) h
    · exact ⟨.idle, changed, .inl ⟨rfl, e, rfl⟩⟩
    · exact ⟨_, changed, .inr ⟨kept, t, rfl, rfl⟩⟩
  · have run : ack id status error s = (.error (.validation
        ("ack status must be Success or Failed, got " ++ status.name)), s) := by
      simp [ack, ended]
    obtain ⟨rfl, rfl⟩ := Prod.mk.inj (run.symm.trans h)
    exact ⟨.idle, changed_idle (.refl _), .inl ⟨rfl, _, rfl⟩⟩

/-- **A worker's release** puts back every row that runs under its token and counts them; it fails
only if the table is out of reach. -/
theorem releaseWorkerJobs_changed {worker : WorkerToken} {s s' : Store}
    {answer : Except Error Nat} (h : releaseWorkerJobs worker s = (answer, s')) :
    (s.jobs.lost = true ∧ s.Changed .idle s' ∧ ∃ e, answer = .error e) ∨
      (s.jobs.lost = false ∧ ∃ now, s.Changed (.release worker now) s' ∧
        answer = .ok (s.jobs.rows.countP (JobRow.isHeldBy worker))) :=
  rewriting_changed (.release worker) (fun _ => trivial) (fun _ => rfl) (fun _ _ => rfl) h

/-- **A server's recovery** puts back every row that runs under another server and counts them; it
fails only if the table is out of reach. -/
theorem releaseStaleJobs_changed {server : InstanceToken} {s s' : Store}
    {answer : Except Error Nat} (h : releaseStaleJobs server s = (answer, s')) :
    (s.jobs.lost = true ∧ s.Changed .idle s' ∧ ∃ e, answer = .error e) ∨
      (s.jobs.lost = false ∧ ∃ now, s.Changed (.recover server now) s' ∧
        answer = .ok (s.jobs.rows.countP (JobRow.isStale server))) :=
  rewriting_changed (.recover server) (fun _ => trivial) (fun _ => rfl) (fun _ _ => rfl) h

/-- The store after a change of the job table by which no job comes in. -/
def Moved (s s' : Store) : Prop := ∃ ch, s.Changed ch s' ∧ ch.added = []

section Moved

variable {s : Store}

theorem Moved.refl (s : Store) : s.Moved s := ⟨.idle, changed_idle (.refl _), rfl⟩

/-- A claim moves a job, or none. -/
theorem moved_claimNext (keyed : Keyed s.jobs.rows) (server : InstanceToken)
    (worker : WorkerToken) (modules : List String) :
    s.Moved (claimNext server worker modules s).2 := by
  obtain ⟨ch, changed, ⟨rfl, -⟩ | ⟨r, -, now, -, rfl, -⟩⟩ := claimNext_changed keyed rfl
  · exact ⟨_, changed, rfl⟩
  · exact ⟨_, changed, rfl⟩

/-- A report moves a job, or none. -/
theorem moved_ack (id : JobId) (status : JobStatus) (error : String) (s : Store) :
    s.Moved (ack id status error s).2 := by
  obtain ⟨ch, changed, ⟨rfl, -⟩ | ⟨kept, now, rfl, -⟩⟩ := ack_changed rfl
  · exact ⟨_, changed, rfl⟩
  · exact ⟨_, changed, rfl⟩

/-- To give the jobs of a worker back moves them. -/
theorem moved_releaseWorkerJobs (worker : WorkerToken) (s : Store) :
    s.Moved (releaseWorkerJobs worker s).2 := by
  obtain ⟨-, changed, -⟩ | ⟨-, now, changed, -⟩ := releaseWorkerJobs_changed rfl
  · exact ⟨_, changed, rfl⟩
  · exact ⟨_, changed, rfl⟩

/-- To recover the jobs of other servers moves them. -/
theorem moved_releaseStaleJobs (server : InstanceToken) (s : Store) :
    s.Moved (releaseStaleJobs server s).2 := by
  obtain ⟨-, changed, -⟩ | ⟨-, now, changed, -⟩ := releaseStaleJobs_changed rfl
  · exact ⟨_, changed, rfl⟩
  · exact ⟨_, changed, rfl⟩

end Moved

/-! ## The operations on other tables -/

section Unchanged

variable {α β : Type} {s : Store}

/-- Two steps that change nothing change nothing. -/
theorem bind_unchanged {op : StoreM α} {next : α → StoreM β} (first : (op s).2 = s)
    (rest : ∀ a, (next a s).2 = s) : ((op >>= next) s).2 = s := by
  rw [run_bind]
  rcases run : op s with ⟨e | a, s'⟩ <;> rw [run] at first
  · exact first
  · have same : s' = s := first
    exact same ▸ same ▸ rest a

theorem caseRows_unchanged (s : Store) : (caseRows s).2 = s := by
  rw [run_caseRows]
  split <;> rfl

theorem evidenceRows_unchanged (s : Store) : (evidenceRows s).2 = s := by
  rw [run_evidenceRows]
  split <;> rfl

theorem hookRows_unchanged (s : Store) : (hookRows s).2 = s := by
  rw [run_hookRows]
  split <;> rfl

/-- Looking a case up changes nothing. -/
theorem getCase_unchanged (id : String) (s : Store) : (getCase id s).2 = s := by
  refine bind_unchanged (caseRows_unchanged s) fun rows => ?_
  cases rows.find? fun r => r.id == id <;> rfl

/-- Looking an item of evidence up changes nothing. -/
theorem getEvidence_unchanged (caseId id : String) (s : Store) :
    (getEvidence caseId id s).2 = s := by
  refine bind_unchanged (evidenceRows_unchanged s) fun rows => ?_
  cases rows.find? fun r => r.caseId == caseId && r.id == id <;> rfl

/-- Listing the hooks changes nothing. -/
theorem listHooks_unchanged (s : Store) : (listHooks s).2 = s := by
  refine bind_unchanged (hookRows_unchanged s) fun rows => ?_
  exact congrArg Prod.snd (run_lift _ s)

end Unchanged

/-- Saving a case puts it in the table, or the table is out of reach. -/
theorem saveCase_cases (c : Case) (s : Store) :
    (∃ e, saveCase c s = (.error e, s)) ∨ s.cases.lost = false ∧ saveCase c s = (.ok (), { s with
      cases := ⟨upsert (fun r => r.id == c.id) (fun _ => c) c s.cases.rows, false⟩ }) := by
  cases lost : s.cases.lost with
  | true => exact .inl ⟨lostTable .cases, by simp [saveCase, lost]⟩
  | false => exact .inr ⟨rfl, by simp [saveCase, lost]⟩

/-- Saving a hook puts it in the table, or the table is out of reach. -/
theorem saveHook_cases (h : Hook) (s : Store) :
    (∃ e, saveHook h s = (.error e, s)) ∨ s.hooks.lost = false ∧ saveHook h s = (.ok (), { s with
      hooks := ⟨upsert (fun r => r.id == h.id) (fun _ => .ofHook h) (.ofHook h) s.hooks.rows,
        false⟩ }) := by
  cases lost : s.hooks.lost with
  | true => exact .inl ⟨lostTable .hooks, by simp [saveHook, lost]⟩
  | false => exact .inr ⟨rfl, by simp [saveHook, lost]⟩

/-- **Saving an item** adds a row with an id of its own or updates the item of that id in that case,
or fails and leaves the store as it is. -/
theorem saveEvidence_cases (e : Evidence) (s : Store) :
    (∃ er, saveEvidence e s = (.error er, s)) ∨
      s.evidences.lost = false ∧ ∃ rows,
        saveEvidence e s = (.ok (), { s with evidences := ⟨rows, false⟩ }) ∧
        ((e.id ∉ s.evidences.rows.map Evidence.id ∧ rows = s.evidences.rows ++ [e]) ∨
          (∃ x ∈ s.evidences.rows, x.id = e.id ∧ x.caseId = e.caseId) ∧
            rows = changeAll (fun r => r.id == e.id) (mergeEvidence e) s.evidences.rows) := by
  cases lost : s.evidences.lost with
  | true => exact .inl ⟨lostTable .evidences, by simp [saveEvidence, lost]⟩
  | false =>
    by_cases elsewhere : s.evidences.rows.any fun r => r.id == e.id && r.caseId != e.caseId
    · exact .inl ⟨.validation ("evidence " ++ e.id ++ " belongs to another case"),
        by simp only [saveEvidence, run_bind, run_evidenceRows, lost, Bool.false_eq_true, if_false,
          elsewhere, if_true, run_throw]⟩
    · refine .inr ⟨rfl, upsert (fun r => r.id == e.id) (mergeEvidence e) e s.evidences.rows, ?_, ?_⟩
      · simp only [saveEvidence, run_bind, run_evidenceRows, lost, Bool.false_eq_true, if_false,
          elsewhere, run_modify]
      · unfold upsert
        split
        next known =>
          obtain ⟨x, hx, same⟩ : ∃ x ∈ s.evidences.rows, x.id = e.id := by simpa using known
          refine .inr ⟨⟨x, hx, same, ?_⟩, rfl⟩
          by_contra other
          exact elsewhere (List.any_eq_true.2 ⟨x, hx, by simp [same, other]⟩)
        next unknown =>
          refine .inl ⟨fun held => unknown ?_, rfl⟩
          simpa using held

/-- Removing a hook takes it out of the table, or there is none to remove. -/
theorem deleteHook_cases (id : String) (s : Store) :
    (∃ e, deleteHook id s = (.error e, s)) ∨ s.hooks.lost = false ∧ deleteHook id s = (.ok (),
      { s with hooks := ⟨s.hooks.rows.filter fun r => r.id != id, false⟩ }) := by
  cases lost : s.hooks.lost with
  | true => exact .inl ⟨lostTable .hooks, by simp [deleteHook, lost]⟩
  | false =>
    cases held : s.hooks.rows.any fun r => r.id == id with
    | true =>
      refine .inr ⟨rfl, ?_⟩
      simp only [deleteHook, run_bind, run_hookRows, lost, Bool.false_eq_true, if_false, held,
        if_true, run_modify]
    | false =>
      refine .inl ⟨.notFound ("hook " ++ id), ?_⟩
      simp only [deleteHook, run_bind, run_hookRows, lost, Bool.false_eq_true, if_false, held,
        run_throw]

theorem Aside.refl (s : Store) : s.Aside s := ⟨rfl, .refl _⟩

/-- What leaves the jobs aside changes no row of theirs. -/
theorem Aside.rows {s s' : Store} (h : s.Aside s') :
    s'.jobs.rows = JobChange.idle.apply s.jobs.rows := by
  rw [h.jobs, JobChange.apply_idle]

/-- What follows a look at another table leaves the jobs alone if each of its branches does. -/
theorem aside_bind {α : Type} {s : Store} {rows : StoreM α} {next : α → StoreM Unit}
    (first : (rows s).2 = s) (rest : ∀ l, s.Aside (next l s).2) :
    s.Aside ((rows >>= next) s).2 := by
  rw [run_bind]
  rcases run : rows s with ⟨e | l, s'⟩ <;> rw [run] at first
  · exact first ▸ .refl _
  · have same : s' = s := first
    exact same ▸ rest l

/-- To save a case leaves the jobs aside. -/
theorem saveCase_aside (c : Case) (s : Store) : s.Aside (saveCase c s).2 :=
  aside_bind (caseRows_unchanged s) fun _ => ⟨rfl, .refl _⟩

/-- To save an item leaves the jobs aside. -/
theorem saveEvidence_aside (e : Evidence) (s : Store) : s.Aside (saveEvidence e s).2 := by
  refine aside_bind (evidenceRows_unchanged s) fun rows => ?_
  split
  · exact .refl _
  · exact ⟨rfl, .refl _⟩

/-- To save a hook leaves the jobs aside. -/
theorem saveHook_aside (h : Hook) (s : Store) : s.Aside (saveHook h s).2 :=
  aside_bind (hookRows_unchanged s) fun _ => ⟨rfl, .refl _⟩

/-- To delete a hook leaves the jobs aside. -/
theorem deleteHook_aside (id : String) (s : Store) : s.Aside (deleteHook id s).2 := by
  refine aside_bind (hookRows_unchanged s) fun rows => ?_
  split
  · exact ⟨rfl, .refl _⟩
  · exact .refl _

end Store
end Casework
