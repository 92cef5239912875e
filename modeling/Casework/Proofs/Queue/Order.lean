/-
# The oldest waiting job goes first

A job is queued at the end of the table and keeps its place, whatever becomes of it, so the table
lists the jobs in the order in which they were queued (`map_id_after`).  A claim takes the first row
that waits for one of its modules (`claimNext_claimsOldest`), and so the job that was queued first
among those that wait.

| a job of the module | the claim |
| --- | --- |
| waits | hands out no job that was queued after it (`not_waiting_of_queuedBefore`) |
| was put back, not handed out since | hands out it or an earlier one (`handed_after_putBack`) |

A job that was put back has not lost its turn: it waits until a claim hands it out
(`IsAt.scheduled_after`), ahead of all that were queued after it.
-/

import Casework.Proofs.Queue.Conservation

namespace Casework
namespace Queue

/-- The id under which a turn queued a job. -/
def Turn.queued? (t : Turn) : Option JobId :=
  match t.answer with
  | .ok (.queued job) => some job.id
  | _ => none

/-- The ids under which some turns queued jobs, in this order. -/
def queuedIds (h : List Turn) : List JobId := h.filterMap Turn.queued?

/-- Some turns queued one job before another. -/
def QueuedBefore (h : List Turn) (id id' : JobId) : Prop :=
  ∃ earlier later, queuedIds h = earlier ++ id' :: later ∧ id ∈ earlier

/-- The row waits for a claim for these modules. -/
def WaitsFor (modules : List String) (r : JobRow) : Prop :=
  r.status = .scheduled ∧ r.moduleName ∈ modules

/-- What a claim for a worker comes to: it hands out the first row that waits for one of the
modules, and changes four of its fields and no other row, or no row waits. -/
inductive ClaimsOldest (server : InstanceToken) (worker : WorkerToken) (modules : List String)
    (s : Store) : Except Error (Option Job) × Store → Prop where
  | handed {front back : List JobRow} {r r' : JobRow} {now : Timestamp} {job : Job}
      {supply : Supply} (rows : s.jobs.rows = front ++ r :: back)
      (older : ∀ x ∈ front, ¬WaitsFor modules x) (waits : WaitsFor modules r)
      (taken : r' = { r with
        status := .running, workerToken := worker, serverToken := server, updatedAt? := some now })
      (read : r'.job? = some job) :
      ClaimsOldest server worker modules s (.ok (some job), { s with
        jobs := ⟨front ++ r' :: back, s.jobs.lost⟩, supply := supply })
  | nothing {supply : Supply} (nobody : ∀ r ∈ s.jobs.rows, ¬WaitsFor modules r) :
      ClaimsOldest server worker modules s (.ok none, { s with supply := supply })

/-- The rows that a claim looks for are those that wait. -/
theorem waitsFor_iff {modules : List String} {r : JobRow} :
    WaitsFor modules r ↔ r.isClaimable modules = true :=
  JobRow.isClaimable_iff.symm

/-- A claim passes the rows that do not wait for its modules. -/
theorem not_waitsFor_iff {modules : List String} {r : JobRow} :
    ¬WaitsFor modules r ↔ r.isClaimable modules = false := by
  rw [waitsFor_iff, Bool.not_eq_true]

variable {s : Store} {c : Call} {id : JobId} {server : InstanceToken} {worker : WorkerToken}
  {modules : List String}

/-! ## The table is in the order of queueing -/

/-- A turn puts what it queues at the end. -/
theorem map_id_turn (sound : Sound s.jobs.rows) (c : Call) :
    (c.turn s).after.jobs.rows.map JobRow.id =
      s.jobs.rows.map JobRow.id ++ (c.turn s).queued?.toList := by
  obtain ⟨ch, changed, outcome⟩ := run_outcome sound c
  rw [changed.rows, JobChange.map_id_apply, Turn.queued?]
  generalize (c.turn s).answer = answer at outcome
  cases outcome with
  | queued read => simp [JobChange.added, JobRow.id_of_job? read]
  | _ => rfl

/-- The first turn may queue a job, and the others queue theirs behind it. -/
theorem queuedIds_cons (t : Turn) (h : List Turn) :
    queuedIds (t :: h) = t.queued?.toList ++ queuedIds h := by
  cases queued : t.queued? <;> simp [queuedIds, queued]

/-- **The table lists the jobs in the order in which they were queued.** -/
theorem map_id_after (sound : Sound s.jobs.rows) (calls : List Call) :
    (after calls s).jobs.rows.map JobRow.id =
      s.jobs.rows.map JobRow.id ++ queuedIds (history calls s) := by
  induction calls generalizing s with
  | nil => exact (List.append_nil _).symm
  | cons c calls ih =>
    rw [after, history, queuedIds_cons, ih (sound.turn c), map_id_turn sound c, List.append_assoc]

/-- The rows stand in the order in which the jobs were queued. -/
theorem map_id_after_empty (supply : Supply) (calls : List Call) :
    (after calls (empty supply)).jobs.rows.map JobRow.id =
      queuedIds (history calls (empty supply)) :=
  map_id_after sound_nil calls

/-- What was queued before the job of a row stands in front of it. -/
theorem mem_front_of_queuedBefore {h : List Turn} {rows front back : List JobRow} {r : JobRow}
    (keyed : Keyed rows) (order : rows.map JobRow.id = queuedIds h)
    (split : rows = front ++ r :: back) (before : QueuedBefore h id r.id) :
    ∃ x ∈ front, x.id = id := by
  obtain ⟨earlier, later, ids, member⟩ := before
  rw [Keyed, order, ids, List.nodup_middle, List.nodup_cons, List.mem_append, not_or] at keyed
  rw [← order, split, List.map_append, List.map_cons] at ids
  obtain ⟨rfl, -, -⟩ := (List.append_cons_inj_of_notMem keyed.1.1 keyed.1.2).1 ids.symm
  exact List.mem_map.1 member

/-- What stands behind a row was queued after it. -/
theorem queuedBefore_of_mem_back {h : List Turn} {rows front back : List JobRow} {r x : JobRow}
    (order : rows.map JobRow.id = queuedIds h) (split : rows = front ++ r :: back)
    (behind : x ∈ back) : QueuedBefore h r.id x.id := by
  obtain ⟨between, after, rfl⟩ := List.append_of_mem behind
  refine ⟨(front ++ r :: between).map JobRow.id, after.map JobRow.id, ?_, ?_⟩
  · rw [← order, split]
    simp
  · simp

/-! ## A claim takes the first that waits -/

/-- No call takes the table out of reach. -/
theorem lost_turn (sound : Sound s.jobs.rows) (c : Call) :
    (c.turn s).after.jobs.lost = s.jobs.lost := by
  obtain ⟨ch, changed, -⟩ := run_outcome sound c
  exact changed.lost

/-- Calls after calls leave the table in reach. -/
theorem lost_after (sound : Sound s.jobs.rows) (calls : List Call) :
    (after calls s).jobs.lost = s.jobs.lost := by
  induction calls generalizing s with
  | nil => rfl
  | cons c calls ih => exact (ih (sound.turn c)).trans (lost_turn sound c)

/-- **A claim takes the first row that waits.** -/
theorem claimNext_claimsOldest (readable : ∀ r ∈ s.jobs.rows, r.createdAt?.isSome = true)
    (there : s.jobs.lost = false) (named : checkModuleNames modules = .ok ())
    (server : InstanceToken) (worker : WorkerToken) :
    ClaimsOldest server worker modules s (Store.claimNext server worker modules s) := by
  obtain ⟨e, supply, -, refused, -⟩ | ⟨supply, -, none, run⟩ |
    ⟨front, r, back, split, older, waits, -, run⟩ :=
    Store.claimNext_cases server worker modules s
  · simp [named, there] at refused
  · rw [run]
    exact .nothing fun r hr => not_waitsFor_iff.2 (none r hr)
  · have member : r ∈ s.jobs.rows := by simp [split]
    obtain ⟨job, read⟩ := JobRow.read_claimed (readable r member) worker server s.supply.now.1
    have taken : ClaimsOldest server worker modules s (.ok (some job), { s with
        jobs := ⟨front ++ r.claimed worker server s.supply.now.1 :: back, s.jobs.lost⟩
        supply := s.supply.now.2 }) :=
      .handed split (fun x hx => not_waitsFor_iff.2 (older x hx)) (waitsFor_iff.2 waits) rfl read
    rw [run, JobRow.read, read]
    rwa [there] at taken

/-- Nothing is handed out, and nothing changed, just when nothing waits. -/
theorem ClaimsOldest.answer_eq_none_iff {p : Except Error (Option Job) × Store}
    (h : ClaimsOldest server worker modules s p) :
    p.1 = .ok none ↔ ∀ r ∈ s.jobs.rows, ¬WaitsFor modules r := by
  cases h with
  | @handed front back r _ _ _ _ rows older waits taken read =>
    have member : r ∈ s.jobs.rows := by simp [rows]
    exact iff_of_false (by simp) fun none => none r member waits
  | nothing none => exact iff_of_true rfl none

/-- The turn of a claim that hands a job out takes the first row that waits. -/
theorem exists_first_of_handed {job : Job} (call : c = .claimNext server worker modules)
    (answer : (c.turn s).answer = .ok (.handed (some job))) :
    ∃ front r back, s.jobs.rows = front ++ r :: back ∧ (∀ x ∈ front, ¬WaitsFor modules x) ∧
      WaitsFor modules r ∧ r.id = job.id := by
  subst call
  obtain ⟨e, supply, -, -, run⟩ | ⟨supply, -, -, run⟩ |
    ⟨front, r, back, split, older, waits, -, run⟩ :=
    Store.claimNext_cases server worker modules s
  · rw [turn_eq rfl run] at answer
    cases answer
  · rw [turn_eq rfl run] at answer
    cases answer
  · refine ⟨front, r, back, split, fun x hx => not_waitsFor_iff.2 (older x hx),
      waitsFor_iff.2 waits, ?_⟩
    rw [turn_eq rfl run, JobRow.read] at answer
    cases read : (r.claimed worker server s.supply.now.1).job? with
    | none => simp [read, Except.map] at answer
    | some job' =>
      obtain rfl : job' = job := by simpa [read, Except.map] using answer
      exact (JobRow.id_of_job? read).symm

/-! ## A job that was put back keeps its turn -/

/-- A change that claims a job hands it out. -/
theorem Outcome.handed_of_claim {rows : List JobRow} {answer : Except Error Reply}
    {now : Timestamp} (outcome : Outcome rows c answer (.claim id worker server now)) :
    ∃ job, answer = .ok (.handed (some job)) ∧ job.id = id := by
  cases outcome with
  | handed mem waits read => exact ⟨_, rfl, (JobRow.id_of_job? read).trans rfl⟩

/-- A job that waits goes on waiting, unless the turn hands it out. -/
theorem IsAt.scheduled_turn (sound : Sound s.jobs.rows) (h : IsAt s.jobs.rows id .scheduled)
    (kept : ¬(c.turn s).Claims id) : IsAt (c.turn s).after.jobs.rows id .scheduled := by
  obtain ⟨ch, changed, outcome⟩ := run_outcome sound c
  obtain ⟨r, hr, rfl, waits⟩ := h
  refine ⟨ch.onRow r, changed.rows ▸ JobChange.onRow_mem_apply hr, JobChange.onRow_id .., ?_⟩
  have rewrites := JobChange.onRow_rewrites ch r
  generalize ch.onRow r = r' at rewrites ⊢
  cases rewrites with
  | stays => exact waits
  | claimed => exact absurd outcome.handed_of_claim kept
  | finished runs => simp [waits] at runs
  | released runs => simp [waits] at runs
  | recovered runs => simp [waits] at runs

/-- A job that waits does so until it is claimed. -/
theorem IsAt.scheduled_after (sound : Sound s.jobs.rows) (h : IsAt s.jobs.rows id .scheduled)
    (calls : List Call) (kept : ∀ t ∈ history calls s, ¬t.Claims id) :
    IsAt (after calls s).jobs.rows id .scheduled := by
  induction calls generalizing s with
  | nil => exact h
  | cons c calls ih =>
    obtain ⟨here, later⟩ := List.forall_mem_cons.1 kept
    exact ih (sound.turn c) (h.scheduled_turn sound here) later

/-! ## Whole histories -/

variable {supply : Supply} {calls : List Call} {front back : List Turn} {t : Turn} {job : Job}

/-- **No claim passes over an older job:** what was queued before the job that is handed out, and
has a module of the claim, does not wait. -/
theorem not_waiting_of_queuedBefore (h : history calls (empty supply) = front ++ t :: back)
    (call : t.call = .claimNext server worker modules)
    (answer : t.answer = .ok (.handed (some job))) {r : JobRow} (hr : r ∈ t.before.jobs.rows)
    (before : QueuedBefore front r.id job.id) : ¬WaitsFor modules r := by
  obtain ⟨earlier, c, later, -, rfl, rfl, -⟩ := history_split h
  obtain ⟨older, first, younger, split, passed, -, same⟩ := exists_first_of_handed call answer
  have keyed := (sound_after_empty supply earlier).keyed
  rw [← same] at before
  obtain ⟨x, hx, id⟩ :=
    mem_front_of_queuedBefore keyed (map_id_after_empty supply earlier) split before
  obtain rfl : x = r := keyed.eq_of_id (split ▸ List.mem_append_left _ hx) hr id
  exact passed x hx

/-- **A job that was put back is ahead of every younger one:** as long as it was not handed out
since, a claim for its module hands out it or a job that was queued before it. -/
theorem handed_after_putBack {middle : List Turn} {u : Turn}
    (h : history calls (empty supply) = front ++ t :: (middle ++ u :: back))
    (put : t.PutsBack id) (kept : ∀ m ∈ middle, ¬m.Claims id)
    (call : u.call = .claimNext server worker modules)
    (named : checkModuleNames modules = .ok ())
    (wanted : ∀ r ∈ u.before.jobs.rows, r.id = id → r.moduleName ∈ modules) :
    ∃ job, u.answer = .ok (.handed (some job)) ∧
      (job.id = id ∨ QueuedBefore (front ++ t :: middle) job.id id) := by
  obtain ⟨earlier, c, rest, -, rfl, rfl, follows⟩ := history_split h
  obtain ⟨between, d, last, -, rfl, rfl, -⟩ := history_split follows.symm
  have start := sound_after_empty supply earlier
  have waits := put.2.2.scheduled_after (start.turn c) between kept
  -- the calls before the claim, of which the turns so far are the history
  have whole : after between (c.turn (after earlier (empty supply))).after =
      after (earlier ++ c :: between) (empty supply) := by rw [after_append]; rfl
  have turns : history earlier (empty supply) ++ c.turn (after earlier (empty supply)) ::
      history between (c.turn (after earlier (empty supply))).after =
      history (earlier ++ c :: between) (empty supply) := by rw [history_append]; rfl
  rw [turns]
  rw [whole] at waits wanted ⊢
  generalize earlier ++ c :: between = calls' at waits wanted ⊢
  have sound := sound_after_empty supply calls'
  have there : (after calls' (empty supply)).jobs.lost = false := lost_after sound_nil calls'
  have order := map_id_after_empty supply calls'
  obtain ⟨r, hr, rfl, scheduled⟩ := waits
  have due : WaitsFor modules r := ⟨scheduled, wanted r hr rfl⟩
  have claim := claimNext_claimsOldest sound.readable there named server worker
  obtain rfl : d = .claimNext server worker modules := call
  rcases run : Store.claimNext server worker modules (after calls' (empty supply)) with ⟨answer, s'⟩
  rw [run] at claim
  rw [turn_eq rfl run]
  cases claim with
  | nothing none => exact absurd due (none r hr)
  | @handed passed behind x _ _ job _ split older first taken read =>
    refine ⟨job, rfl, ?_⟩
    have same : job.id = x.id := (JobRow.id_of_job? read).trans (by rw [taken])
    rw [same]
    rw [split, List.mem_append, List.mem_cons] at hr
    obtain front | rfl | back := hr
    · exact absurd due (older r front)
    · exact .inl rfl
    · exact .inr (queuedBefore_of_mem_back order split back)

/-- **Claims are oldest first.**  After any calls from the empty store the rows are in the order in
which the jobs were queued, and a claim for well-formed names hands out the first row that waits for
one of them, of which it changes the status, the worker, the server and the time, or, just when none
waits, hands out nothing and changes nothing.  So over the whole history, when a job is handed out,
none that was queued before it waits for the claim; and a job that was put back is ahead of all that
were queued after it, until it is handed out again. -/
theorem claims_oldest_first (supply : Supply) (calls : List Call) :
    let s := after calls (empty supply)
    let h := history calls (empty supply)
    s.jobs.rows.map JobRow.id = queuedIds h ∧
    (∀ (server : InstanceToken) (worker : WorkerToken) (modules : List String),
      checkModuleNames modules = .ok () →
        ClaimsOldest server worker modules s (Store.claimNext server worker modules s) ∧
        ((Store.claimNext server worker modules s).1 = .ok none ↔
          ∀ r ∈ s.jobs.rows, ¬WaitsFor modules r)) ∧
    (∀ (front back : List Turn) (t : Turn) (server : InstanceToken) (worker : WorkerToken)
      (modules : List String) (job : Job), h = front ++ t :: back →
        t.call = .claimNext server worker modules → t.answer = .ok (.handed (some job)) →
        ∀ r ∈ t.before.jobs.rows, QueuedBefore front r.id job.id → ¬WaitsFor modules r) ∧
    (∀ (id : JobId) (front middle back : List Turn) (t u : Turn) (server : InstanceToken)
      (worker : WorkerToken) (modules : List String), h = front ++ t :: (middle ++ u :: back) →
        t.PutsBack id → (∀ m ∈ middle, ¬m.Claims id) →
        u.call = .claimNext server worker modules → checkModuleNames modules = .ok () →
        (∀ r ∈ u.before.jobs.rows, r.id = id → r.moduleName ∈ modules) →
        ∃ job, u.answer = .ok (.handed (some job)) ∧
          (job.id = id ∨ QueuedBefore (front ++ t :: middle) job.id id)) := by
  intro s h
  have sound : Sound s.jobs.rows := sound_after_empty supply calls
  have there : s.jobs.lost = false := lost_after sound_nil calls
  refine ⟨map_id_after_empty supply calls, fun server worker modules named => ?_, ?_, ?_⟩
  · have claim := claimNext_claimsOldest sound.readable there named server worker
    exact ⟨claim, claim.answer_eq_none_iff⟩
  · intro front back t server worker modules job split call answer r hr before
    exact not_waiting_of_queuedBefore split call answer hr before
  · intro id front middle back t u server worker modules split put kept call named wanted
    exact handed_after_putBack split put kept call named wanted

/-- Three jobs are queued, and the first of them is handed out and put back. -/
def requeuing : List Call :=
  [.enqueue "server" "case" "item" "Hayabusa", .enqueue "server" "case" "item" "Plaso",
    .enqueue "server" "case" "item" "Hayabusa", .claimNext "server" "first" ["Hayabusa"],
    .releaseWorker "first"]

/-- The job that was put back is handed out first of the three that then wait for the claim. -/
theorem claims_oldest_first_requeued :
    let claim : Call := .claimNext "server" "second" ["Plaso", "Hayabusa"]
    let s := after requeuing (empty .counting)
    s.jobs.rows.countP (JobRow.isClaimable ["Plaso", "Hayabusa"]) = 3 ∧
      (∃ t ∈ history requeuing (empty .counting), t.PutsBack "j") ∧
      ∃ job, (claim.turn s).answer = .ok (.handed (some job)) ∧ job.id = "j" := by
  intro claim s
  obtain ⟨-, -, -, ahead⟩ := claims_oldest_first .counting (requeuing ++ [claim])
  let release : Call := .releaseWorker "first"
  let before := after (requeuing.take 4) (empty .counting)
  let ran : JobRow := ⟨"j", "case", "item", "Hayabusa", .running, "", "server", "first",
    some .epoch, some .epoch⟩
  have put : (release.turn before).PutsBack "j" :=
    ⟨.inl ⟨"first", rfl⟩, ⟨ran, by decide +kernel⟩, ran.released .epoch, by decide +kernel⟩
  have split : history (requeuing ++ [claim]) (empty .counting) =
      history (requeuing.take 4) (empty .counting) ++
        release.turn before :: ([] ++ claim.turn s :: []) := by
    rw [List.nil_append, history_append]
    rfl
  obtain ⟨job, answer, first⟩ := ahead "j" _ [] [] _ (claim.turn s) "server" "second"
    ["Plaso", "Hayabusa"] split put (by simp) rfl (by decide) (by decide +kernel)
  refine ⟨by decide +kernel, ⟨_, ?_, put⟩, job, answer, first.resolve_right ?_⟩
  · have last : history requeuing (empty .counting) =
        history (requeuing.take 4) (empty .counting) ++ [release.turn before] := rfl
    simp [last]
  · rintro ⟨earlier, later, ids, member⟩
    have queued : queuedIds (history (requeuing.take 4) (empty .counting) ++
        [release.turn before]) = ["j", "jj", "jjj"] := by decide +kernel
    rw [queued] at ids
    cases earlier with
    | nil => simp at member
    | cons id earlier =>
      have behind : ["jj", "jjj"] = earlier ++ "j" :: later := (List.cons.inj ids).2
      have again : "j" ∈ ["jj", "jjj"] := by simp [behind]
      exact absurd again (by decide)

end Queue
end Casework
