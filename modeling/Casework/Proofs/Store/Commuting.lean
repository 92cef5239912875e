/-
# Operations on jobs that commute

Two operations commute on a store if each gets the same answer whether it comes first or second,
and both orders leave the same store, up to the times of change (`Store.Commute`).  What decides is
the rows that each of them takes:

| two operations | commute, on any store, if |
|---|---|
| claims | no module is in both lists |
| reports | they are on different jobs |
| releases of workers | they are of different tokens |
| a report on a job and a release | no row of the job runs under the released token |

All four go by rules on rows (`RowRule`).  Two rules are apart at a row if they do not both take it
and neither takes what the other makes of it (`RowRule.Apart`); then they can be followed in either
order there (`Apart.untimed_onRow`), hence on all rows of a table (`Apart.untimed_onRows`), and on
the first row that each takes (`first_comm`).  The last condition of the table is needed: where a
row of the job does run under the token, the two orders differ (`held_of_not_commute`).

A report of an end, a release and a recovery take no row that they have made, so that a second one
right after the first finds nothing to do (`repeats_rewriting`).
-/

import Casework.Proofs.Store.Failures

namespace Casework

/-! ## Times of change -/

/-- The job with the time of its last change blotted out. -/
def Job.untimed (j : Job) : Job := { j with updatedAt := .epoch }

namespace JobRow

/-- The row with the time of its last change blotted out; whether there is one that can be read is
still told. -/
def untimed (r : JobRow) : JobRow := { r with updatedAt? := r.updatedAt?.map fun _ => .epoch }

/-- Whether a row can be read does not depend on its times. -/
theorem job?_untimed (r : JobRow) : r.untimed.job? = r.job?.map Job.untimed := by
  rcases r with ⟨id, caseId, evidenceId, moduleName, status, error, server, worker, _ | created,
    _ | updated⟩ <;> rfl

/-- What is said of a row that cannot be read does not depend on its times. -/
theorem read_untimed (r : JobRow) : r.untimed.read = r.read.map Job.untimed := by
  unfold read
  rw [job?_untimed]
  cases r.job? <;> rfl

end JobRow

namespace Store

/-- The store with the times of change of its jobs blotted out. -/
def untimed (s : Store) : Store :=
  { s with jobs := { s.jobs with rows := s.jobs.rows.map JobRow.untimed } }

/-- Two operations commute: each gets one answer, first or second, and one store is left, up to the
times of change. -/
structure Commute {α β : Type} (op : StoreM α) (op' : StoreM β) (s : Store) : Prop where
  left : (op (op' s).2).1 = (op s).1
  right : (op' (op s).2).1 = (op' s).1
  store : (op' (op s).2).2.untimed = (op (op' s).2).2.untimed

/-- An operation that comes again, right after itself, changes no table and answers that nothing was
done. -/
structure Repeats {α : Type} (op : StoreM α) (idle : α) (s : Store) : Prop where
  tables : (op s).2.SameTables (op (op s).2).2
  answer : s.jobs.lost = false → (op (op s).2).1 = .ok idle

end Store

/-! ## Rules on rows -/

/-- A rule by which rows are changed: which of them it takes, and what one becomes at a time. -/
structure RowRule where
  takes : JobRow → Bool
  makes : Timestamp → JobRow → JobRow
  stamps : ∀ t t' r, (makes t r).untimed = (makes t' r).untimed

namespace RowRule

/-- A row that waits for one of the modules goes to the worker. -/
def claim (server : InstanceToken) (worker : WorkerToken) (modules : List String) : RowRule where
  takes := JobRow.isClaimable modules
  makes := JobRow.claimed worker server
  stamps _ _ _ := rfl

/-- A row of the job that runs comes to its end. -/
def finish (id : JobId) (status : JobStatus) (error : String) : RowRule where
  takes r := r.id == id && r.status == .running
  makes := JobRow.finished status error
  stamps _ _ _ := rfl

/-- A row that runs under the worker's token is put back. -/
def release (worker : WorkerToken) : RowRule where
  takes := JobRow.isHeldBy worker
  makes := JobRow.released
  stamps _ _ _ := rfl

/-- A row that runs under another server is put back. -/
def recover (server : InstanceToken) : RowRule where
  takes := JobRow.isStale server
  makes := JobRow.recovered server
  stamps _ _ _ := rfl

/-- A row after the rule. -/
def onRow (a : RowRule) (t : Timestamp) (r : JobRow) : JobRow :=
  if a.takes r then a.makes t r else r

/-- The rows of a table after the rule. -/
def onRows (a : RowRule) (t : Timestamp) (rows : List JobRow) : List JobRow :=
  changeAll a.takes (a.makes t) rows

/-- The first row that the rule takes, as it has become, and the rows of the table then. -/
def first (a : RowRule) (t : Timestamp) (rows : List JobRow) : Option JobRow × List JobRow :=
  match changeFirst a.takes (a.makes t) rows with
  | some (r, rows) => (some r, rows)
  | none => (none, rows)

/-- Two rules do not both take the row, and neither takes what the other makes of it. -/
structure Apart (a b : RowRule) (r : JobRow) : Prop where
  once : a.takes r = true → b.takes r = false
  left : ∀ t, a.takes r = true → b.takes (a.makes t r) = false
  right : ∀ t, b.takes r = true → a.takes (b.makes t r) = false

variable {a b : RowRule} {r : JobRow} {rows : List JobRow}

theorem Apart.symm (h : Apart a b r) : Apart b a r := by
  refine ⟨fun taken => ?_, h.right, h.left⟩
  cases both : a.takes r with
  | false => rfl
  | true => exact absurd taken (by simp [h.once both])

theorem onRow_of_takes (taken : a.takes r = true) (t : Timestamp) : a.onRow t r = a.makes t r :=
  if_pos taken

theorem onRow_of_not_takes (left : a.takes r = false) (t : Timestamp) : a.onRow t r = r :=
  if_neg (by simp [left])

/-- The time of the change is all that depends on the clock. -/
theorem untimed_onRow (a : RowRule) (t t' : Timestamp) (r : JobRow) :
    (a.onRow t r).untimed = (a.onRow t' r).untimed := by
  cases taken : a.takes r with
  | true => rw [onRow_of_takes taken, onRow_of_takes taken, a.stamps t t']
  | false => rw [onRow_of_not_takes taken, onRow_of_not_takes taken]

/-- A rule takes a row or not, whether the other one has been there or not. -/
theorem Apart.takes_onRow (h : Apart a b r) (t : Timestamp) :
    a.takes (b.onRow t r) = a.takes r := by
  cases taken : b.takes r with
  | true => rw [onRow_of_takes taken, h.right t taken, h.symm.once taken]
  | false => rw [onRow_of_not_takes taken]

/-- **At one row** the rules can be followed in either order. -/
theorem Apart.untimed_onRow (h : Apart a b r) (t t' u u' : Timestamp) :
    (b.onRow u (a.onRow t r)).untimed = (a.onRow t' (b.onRow u' r)).untimed := by
  cases taken : a.takes r with
  | true =>
    rw [onRow_of_takes taken, onRow_of_not_takes (h.left t taken),
      onRow_of_not_takes (h.once taken), onRow_of_takes taken, a.stamps t t']
  | false =>
    rw [onRow_of_not_takes taken, onRow_of_not_takes ((h.takes_onRow u').trans taken)]
    exact b.untimed_onRow u u' r

/-- **On all rows** as well. -/
theorem Apart.untimed_onRows (h : ∀ r ∈ rows, Apart a b r) (t t' u u' : Timestamp) :
    (b.onRows u (a.onRows t rows)).map JobRow.untimed =
      (a.onRows t' (b.onRows u' rows)).map JobRow.untimed := by
  simp only [onRows, changeAll, List.map_map]
  exact List.map_congr_left fun r hr => (h r hr).untimed_onRow t t' u u'

/-- One of two rules that are apart takes as many rows after the other as before. -/
theorem Apart.countP_onRows (h : ∀ r ∈ rows, Apart a b r) (u : Timestamp) :
    (b.onRows u rows).countP a.takes = rows.countP a.takes := by
  rw [onRows, changeAll, List.countP_map]
  exact List.countP_congr fun r hr => by
    rw [Function.comp_apply, show a.takes (if b.takes r then b.makes u r else r) = a.takes r from
      (h r hr).takes_onRow u]

/-! ### The first row -/

/-- A row that is taken is the first, and otherwise it is among those behind. -/
theorem first_cons (a : RowRule) (t : Timestamp) (r : JobRow) (rows : List JobRow) :
    a.first t (r :: rows) = if a.takes r then (some (a.makes t r), a.makes t r :: rows)
      else ((a.first t rows).1, r :: (a.first t rows).2) := by
  simp only [first, changeFirst]
  cases a.takes r with
  | true => rfl
  | false => cases changeFirst a.takes (a.makes t) rows <;> rfl

/-- At another time the same row is taken, and the same is left. -/
theorem first_untimed (a : RowRule) (t t' : Timestamp) (rows : List JobRow) :
    (a.first t rows).1.map JobRow.untimed = (a.first t' rows).1.map JobRow.untimed ∧
      (a.first t rows).2.map JobRow.untimed = (a.first t' rows).2.map JobRow.untimed := by
  induction rows with
  | nil => exact ⟨rfl, rfl⟩
  | cons r rows ih =>
    rw [first_cons, first_cons]
    split
    · simp [a.stamps t t']
    · simp [ih]

/-- **At the first row that each takes** the rules can be followed in either order, and each takes
the row that it takes alone. -/
theorem first_comm (h : ∀ r ∈ rows, Apart a b r) (t t' u u' : Timestamp) :
    (b.first u (a.first t rows).2).1.map JobRow.untimed =
        (b.first u' rows).1.map JobRow.untimed ∧
      (b.first u (a.first t rows).2).2.map JobRow.untimed =
        (a.first t' (b.first u' rows).2).2.map JobRow.untimed := by
  induction rows with
  | nil => exact ⟨rfl, rfl⟩
  | cons r rows ih =>
    have here := h r List.mem_cons_self
    have rest := ih fun x hx => h x (List.mem_cons_of_mem _ hx)
    rw [first_cons a t, first_cons b u']
    cases left : a.takes r with
    | true =>
      -- the row is the first rule's: the other one goes on behind it
      have behind := b.first_untimed u u' rows
      simp [first_cons, left, here.once left, here.left t left, behind, a.stamps t t']
    | false =>
      cases right : b.takes r with
      | true => simp [first_cons, right, here.right u' right, b.stamps u u',
          a.first_untimed t t' rows]
      | false => simp [first_cons, left, right, rest]

end RowRule

/-! ## Statements -/

namespace Store

open RowRule

variable {α β : Type} {s : Store}

theorem Commute.symm {op : StoreM α} {op' : StoreM β} (h : Commute op op' s) :
    Commute op' op s := ⟨h.right, h.left, h.store.symm⟩

/-- What neither reads nor changes the store commutes with everything. -/
theorem commute_of_fixed {op : StoreM α} {answer : Except Error α}
    (fixed : ∀ s, op s = (answer, s)) (op' : StoreM β) (s : Store) : Commute op op' s := by
  constructor <;> simp only [fixed]

/-- A statement on the job table: it looks at the clock, and from the time and the rows follow its
answer and the rows that it leaves. -/
def statement (run : Timestamp → List JobRow → Except Error α × List JobRow) : StoreM α := do
  let t ← now
  let rows ← jobRows
  putJobs (run t rows).2
  liftM (run t rows).1

/-- A statement reads the clock first, so it does so when the table is out of reach, too. -/
theorem run_statement (run : Timestamp → List JobRow → Except Error α × List JobRow) (s : Store) :
    statement run s =
      if s.jobs.lost then (.error (lostTable .jobs), { s with supply := s.supply.now.2 })
      else ((run s.supply.now.1 s.jobs.rows).1, { s with
        supply := s.supply.now.2
        jobs := ⟨(run s.supply.now.1 s.jobs.rows).2, false⟩ }) := by
  cases lost : s.jobs.lost <;> simp [statement, lost]

/-- **Two statements commute** if each answers the same from the rows that the other leaves, and the
rows after both are the same. -/
theorem commute_statement {run : Timestamp → List JobRow → Except Error α × List JobRow}
    {run' : Timestamp → List JobRow → Except Error β × List JobRow}
    (left : ∀ t t' u, (run t (run' u s.jobs.rows).2).1 = (run t' s.jobs.rows).1)
    (right : ∀ t t' u, (run' t (run u s.jobs.rows).2).1 = (run' t' s.jobs.rows).1)
    (rows : ∀ t t' u u', (run' u (run t s.jobs.rows).2).2.map JobRow.untimed =
      (run t' (run' u' s.jobs.rows).2).2.map JobRow.untimed) :
    Commute (statement run) (statement run') s := by
  cases lost : s.jobs.lost with
  | true => constructor <;> simp [run_statement, lost]
  | false =>
    constructor
    · simpa [run_statement, lost] using left _ _ _
    · simpa [run_statement, lost] using right _ _ _
    · simpa [run_statement, lost, untimed] using rows _ _ _ _

/-! ### Reports and releases -/

/-- A rule is followed on every row that it takes, and the answer is made of their number. -/
def follow (a : RowRule) (answer : ℕ → α) : StoreM α :=
  rewriting a.takes a.makes fun rows => answer (rows.countP a.takes)

/-- To follow a rule is a statement. -/
theorem follow_eq_statement (a : RowRule) (answer : ℕ → α) :
    follow a answer =
      statement fun t rows => (.ok (answer (rows.countP a.takes)), a.onRows t rows) := by
  funext s
  rw [run_statement]
  cases lost : s.jobs.lost <;> simp [follow, rewriting, lost, onRows, Except.map]

/-- A report follows the rule by which its job ends. -/
theorem ack_eq_follow {status : JobStatus} (ended : status.isTerminal = true) (id : JobId)
    (error : String) :
    ack id status error = follow (.finish id status (if status = .success then "" else error))
      fun n => decide (0 < n) := by
  have any (rows : List JobRow) : rows.any (RowRule.finish id status error).takes =
      decide (0 < rows.countP (RowRule.finish id status error).takes) := by
    rw [Bool.eq_iff_iff, List.any_eq_true, decide_eq_true_iff, List.countP_pos_iff]
  unfold ack
  simp only [ended, Bool.not_true, Bool.false_eq_true, if_false]
  exact congrArg (rewriting _ _) (funext any)

/-- To give the jobs of a worker back follows a rule. -/
theorem releaseWorkerJobs_eq_follow (worker : WorkerToken) :
    releaseWorkerJobs worker = follow (.release worker) fun n => n := rfl

/-- To recover the jobs of other servers follows a rule. -/
theorem releaseStaleJobs_eq_follow (server : InstanceToken) :
    releaseStaleJobs server = follow (.recover server) fun n => n := rfl

/-- Rules that are apart at every row can be followed in either order. -/
theorem commute_follow {a b : RowRule} (apart : ∀ r ∈ s.jobs.rows, Apart a b r) (answer : ℕ → α)
    (answer' : ℕ → β) : Commute (follow a answer) (follow b answer') s := by
  rw [follow_eq_statement, follow_eq_statement]
  exact commute_statement (fun t t' u => by rw [Apart.countP_onRows apart])
    (fun t t' u => by rw [Apart.countP_onRows fun r hr => (apart r hr).symm])
    fun t t' u u' => Apart.untimed_onRows apart t t' u u'

/-- A job that is over does not run. -/
theorem ne_running_of_isTerminal {status : JobStatus} (ended : status.isTerminal = true) :
    status ≠ .running := by
  rintro rfl
  simp [JobStatus.isTerminal] at ended

/-- A report of something that is no end is refused, whatever the store. -/
theorem ack_of_not_ended {status : JobStatus} (open_ : status.isTerminal = false) (id : JobId)
    (error : String) (s : Store) :
    ack id status error s = (.error (.validation
      ("ack status must be Success or Failed, got " ++ status.name)), s) := by
  simp [ack, open_]

/-- **Reports on different jobs** commute. -/
theorem commute_ack {id id' : JobId} (other : id ≠ id') (status status' : JobStatus)
    (error error' : String) (s : Store) :
    Commute (ack id status error) (ack id' status' error') s := by
  cases ended : status.isTerminal with
  | false => exact commute_of_fixed (ack_of_not_ended ended id error) _ s
  | true =>
    cases ended' : status'.isTerminal with
    | false => exact (commute_of_fixed (ack_of_not_ended ended' id' error') _ s).symm
    | true =>
      rw [ack_eq_follow ended, ack_eq_follow ended']
      refine commute_follow (fun r _ => ⟨fun own => ?_, fun t own => ?_, fun t own => ?_⟩) _ _
      all_goals
        simp only [finish, Bool.and_eq_true, beq_iff_eq] at own
        simp [finish, JobRow.finished, own.1, other, other.symm]

/-- **Releases of different workers** commute. -/
theorem commute_release {worker worker' : WorkerToken} (other : worker ≠ worker') (s : Store) :
    Commute (releaseWorkerJobs worker) (releaseWorkerJobs worker') s := by
  rw [releaseWorkerJobs_eq_follow, releaseWorkerJobs_eq_follow]
  refine commute_follow (fun r _ => ⟨fun own => ?_, fun t _ => ?_, fun t _ => ?_⟩) _ _
  · have held : r.workerToken = worker := (JobRow.isHeldBy_iff.1 own).1
    simp [release, JobRow.isHeldBy, held, other]
  · simp [release, JobRow.isHeldBy, JobRow.released]
  · simp [release, JobRow.isHeldBy, JobRow.released]

/-- **A report and a release** commute where the job does not run under the released token. -/
theorem commute_ack_release {id : JobId} {worker : WorkerToken}
    (free : ∀ r ∈ s.jobs.rows, r.id = id → r.isHeldBy worker = false) (status : JobStatus)
    (error : String) : Commute (ack id status error) (releaseWorkerJobs worker) s := by
  cases ended : status.isTerminal with
  | false => exact commute_of_fixed (ack_of_not_ended ended id error) _ s
  | true =>
    rw [ack_eq_follow ended, releaseWorkerJobs_eq_follow]
    refine commute_follow (fun r hr => ⟨fun own => ?_, fun t own => ?_, fun t _ => ?_⟩) _ _
    · simp only [finish, Bool.and_eq_true, beq_iff_eq] at own
      exact free r hr own.1
    · simp [release, finish, JobRow.isHeldBy, JobRow.finished, ne_running_of_isTerminal ended]
    · simp [release, finish, JobRow.released]

/-- If a rule makes no row that `p` counts, and as many are counted after it as before, then it has
taken none of those that are counted. -/
theorem not_takes_of_countP_eq {a : RowRule} {p : JobRow → Bool} {t : Timestamp}
    {rows : List JobRow} (gone : ∀ r, a.takes r = true → p (a.makes t r) = false)
    (same : (a.onRows t rows).countP p = rows.countP p) {r : JobRow} (hr : r ∈ rows)
    (counted : p r = true) : a.takes r = false := by
  have none : (rows.filter a.takes).countP (p ∘ a.onRow t) = 0 :=
    List.countP_eq_zero.2 fun x hx => by
      have taken := (List.mem_filter.1 hx).2
      simp [onRow_of_takes taken, gone x taken]
  have rest : (rows.filter (!a.takes ·)).countP (p ∘ a.onRow t) =
      (rows.filter (!a.takes ·)).countP p :=
    List.countP_congr fun x hx => by
      have left : a.takes x = false := by simpa using (List.mem_filter.1 hx).2
      simp [onRow_of_not_takes left]
  rw [onRows, changeAll, List.countP_map, List.countP_eq_countP_filter_add _ _ a.takes,
    show (p ∘ fun r => if a.takes r then a.makes t r else r) = p ∘ a.onRow t from rfl, none, rest,
    List.countP_eq_countP_filter_add rows p a.takes] at same
  have zero : (rows.filter a.takes).countP p = 0 := by omega
  by_contra taken
  have member := List.mem_filter.2 ⟨hr, by simpa using taken⟩
  exact List.countP_eq_zero.1 zero r member counted

/-- **No less will do:** a report of an end and a release that commute are on a job that does not
run under the token. -/
theorem not_held_of_commute {id : JobId} {status : JobStatus} {error : String}
    {worker : WorkerToken} (ended : status.isTerminal = true) (there : s.jobs.lost = false)
    (commute : Commute (ack id status error) (releaseWorkerJobs worker) s) {r : JobRow}
    (hr : r ∈ s.jobs.rows) (own : r.id = id) : r.isHeldBy worker = false := by
  have counts := commute.right
  rw [ack_eq_follow ended, releaseWorkerJobs_eq_follow, follow_eq_statement, follow_eq_statement]
    at counts
  simp only [run_statement, there, Bool.false_eq_true, if_false, Except.ok.injEq] at counts
  by_contra held
  rw [Bool.not_eq_false] at held
  have left := not_takes_of_countP_eq (fun x _ => by
    simp [release, finish, JobRow.isHeldBy, JobRow.finished, ne_running_of_isTerminal ended])
    counts hr held
  simp [finish, own, (JobRow.isHeldBy_iff.1 held).2] at left

/-! ### Claims -/

/-- What a claim hands out for the row that it has taken, the time of change aside. -/
def handedOut : Option JobRow → Except Error (Option Job)
  | some r => r.untimed.read.map some
  | none => .ok none

/-- What is handed out does not show the time of change. -/
theorem handedOut_untimed (r? : Option JobRow) :
    handedOut (r?.map JobRow.untimed) = handedOut r? := by
  cases r? with
  | none => rfl
  | some r => cases updated : r.updatedAt? <;> simp [handedOut, JobRow.untimed, updated]

/-- A claim is a statement, if it asks for modules with well-formed names. -/
theorem claimNext_eq_statement {modules : List String} (named : checkModuleNames modules = .ok ())
    (some_ : modules ≠ []) (server : InstanceToken) (worker : WorkerToken) :
    Option.map Job.untimed <$> claimNext server worker modules = statement fun t rows =>
      (handedOut ((RowRule.claim server worker modules).first t rows).1,
        ((RowRule.claim server worker modules).first t rows).2) := by
  funext s
  rw [run_statement]
  cases lost : s.jobs.lost with
  | true => simp [claimNext, named, some_, lost, Except.map]
  | false =>
    have jobs : s.jobs = ⟨s.jobs.rows, false⟩ := by rw [← lost]
    cases found : changeFirst (JobRow.isClaimable modules)
        (JobRow.claimed worker server s.supply.now.1) s.jobs.rows with
    | none =>
      simp [claimNext, named, some_, lost, found, first, claim, handedOut, Except.map, ← jobs]
    | some changed =>
      simp [claimNext, named, some_, lost, found, first, claim, handedOut, JobRow.read_untimed]
      cases changed.1.read <;> rfl

/-- A claim that is refused for a name, or for no module, neither reads nor changes the store. -/
theorem claimNext_fixed {modules : List String}
    (refused : ¬ (checkModuleNames modules = .ok () ∧ modules ≠ [])) (server : InstanceToken)
    (worker : WorkerToken) : ∃ answer, ∀ s,
      (Option.map Job.untimed <$> claimNext server worker modules) s = (answer, s) := by
  cases named : checkModuleNames modules with
  | error e => exact ⟨.error e, fun s => by simp [claimNext, named, Except.map]⟩
  | ok _ =>
    have empty : modules = [] := by
      by_contra some_
      exact refused ⟨named, some_⟩
    exact ⟨.ok none, fun s => by simp [claimNext, empty, checkModuleNames, Except.map]⟩

/-- **Claims for different modules** commute. -/
theorem commute_claimNext {modules modules' : List String} (other : modules.Disjoint modules')
    (server server' : InstanceToken) (worker worker' : WorkerToken) (s : Store) :
    Commute (Option.map Job.untimed <$> claimNext server worker modules)
      (Option.map Job.untimed <$> claimNext server' worker' modules') s := by
  by_cases asked : checkModuleNames modules = .ok () ∧ modules ≠ []
  · by_cases asked' : checkModuleNames modules' = .ok () ∧ modules' ≠ []
    · rw [claimNext_eq_statement asked.1 asked.2, claimNext_eq_statement asked'.1 asked'.2]
      have apart (r : JobRow) :
          Apart (.claim server worker modules) (.claim server' worker' modules') r := by
        refine ⟨fun own => ?_, fun t _ => ?_, fun t _ => ?_⟩
        · have member := (JobRow.isClaimable_iff.1 own).2
          simpa [claim, JobRow.isClaimable] using fun _ => other member
        · simp [claim, JobRow.isClaimable, JobRow.claimed]
        · simp [claim, JobRow.isClaimable, JobRow.claimed]
      refine commute_statement (fun t t' u => ?_) (fun t t' u => ?_) fun t t' u u' => ?_
      · rw [← handedOut_untimed, (first_comm (fun r _ => (apart r).symm) u t t t').1,
          handedOut_untimed]
      · rw [← handedOut_untimed, (first_comm (fun r _ => apart r) u t t t').1, handedOut_untimed]
      · exact (first_comm (fun r _ => apart r) t t' u u').2
    · obtain ⟨answer, fixed⟩ := claimNext_fixed asked' server' worker'
      exact (commute_of_fixed fixed _ s).symm
  · obtain ⟨answer, fixed⟩ := claimNext_fixed asked server worker
    exact commute_of_fixed fixed _ s

/-! ### Once more -/

/-- **A rule that takes no row it has made** finds nothing to do right after itself. -/
theorem repeats_follow {a : RowRule}
    (once : ∀ t r, a.takes r = true → a.takes (a.makes t r) = false) (answer : ℕ → α) (s : Store) :
    Repeats (follow a answer) (answer 0) s := by
  have left (t : Timestamp) (r : JobRow) : a.takes (a.onRow t r) = false := by
    cases taken : a.takes r with
    | true => rw [onRow_of_takes taken, once t r taken]
    | false => rw [onRow_of_not_takes taken, taken]
  have again (t t' : Timestamp) (rows : List JobRow) :
      a.onRows t' (a.onRows t rows) = a.onRows t rows := by
    simp only [onRows, changeAll, List.map_map]
    exact List.map_congr_left fun r _ => onRow_of_not_takes (left t r) t'
  have count (t : Timestamp) (rows : List JobRow) : (a.onRows t rows).countP a.takes = 0 := by
    rw [onRows, changeAll, List.countP_map]
    exact List.countP_eq_zero.2 fun r _ => Bool.not_eq_true _ ▸ left t r
  rw [follow_eq_statement]
  cases lost : s.jobs.lost with
  | true =>
    refine ⟨?_, fun there => by simp [lost] at there⟩
    simp only [run_statement, lost, if_true]
    exact sameTables_supply _ _
  | false =>
    refine ⟨?_, fun _ => by simp [run_statement, lost, count]⟩
    simp only [run_statement, lost, Bool.false_eq_true, if_false, again]
    exact ⟨rfl, rfl, rfl, rfl⟩

/-- **Independent operations commute,** on any store.  So do two claims whose lists share no module,
for any servers and workers; two reports on different jobs; two releases of different workers; and a
report with the release of a worker under which the job does not run, while no report of an end
commutes with the release of the worker that runs the job.  A report of an end, a release or a
recovery that comes again right after itself changes nothing, and says so. -/
theorem independent_operations_commute (s : Store) :
    (∀ server server' worker worker' modules modules', modules.Disjoint modules' →
        Commute (Option.map Job.untimed <$> claimNext server worker modules)
          (Option.map Job.untimed <$> claimNext server' worker' modules') s) ∧
      (∀ id id' status status' error error', id ≠ id' →
        Commute (ack id status error) (ack id' status' error') s) ∧
      (∀ worker worker', worker ≠ worker' →
        Commute (releaseWorkerJobs worker) (releaseWorkerJobs worker') s) ∧
      (∀ id status error worker,
        (∀ r ∈ s.jobs.rows, r.id = id → r.isHeldBy worker = false) →
          Commute (ack id status error) (releaseWorkerJobs worker) s) ∧
      (∀ id status error worker, status.isTerminal = true → s.jobs.lost = false →
        Commute (ack id status error) (releaseWorkerJobs worker) s →
          ∀ r ∈ s.jobs.rows, r.id = id → r.isHeldBy worker = false) ∧
      (∀ id status error, status.isTerminal = true → Repeats (ack id status error) false s) ∧
      (∀ worker, Repeats (releaseWorkerJobs worker) 0 s) ∧
      ∀ server, Repeats (releaseStaleJobs server) 0 s := by
  refine ⟨fun server server' worker worker' _ _ other =>
      commute_claimNext other server server' worker worker' s,
    fun _ _ status status' error error' other => commute_ack other status status' error error' s,
    fun _ _ other => commute_release other s,
    fun _ status error _ free => commute_ack_release free status error,
    fun _ _ _ _ ended there commute _ hr own => not_held_of_commute ended there commute hr own,
    fun id status error ended => ?_, fun worker => ?_, fun server => ?_⟩
  · rw [ack_eq_follow ended]
    refine repeats_follow (fun t r _ => ?_) (fun n => decide (0 < n)) s
    simp [finish, JobRow.finished, ne_running_of_isTerminal ended]
  · rw [releaseWorkerJobs_eq_follow]
    refine repeats_follow (fun t r _ => ?_) (fun n => n) s
    simp [release, JobRow.isHeldBy, JobRow.released]
  · rw [releaseStaleJobs_eq_follow]
    refine repeats_follow (fun t r _ => ?_) (fun n => n) s
    simp [recover, JobRow.isStale, JobRow.recovered]

/-- Four jobs are queued, and two of them go to a worker each. -/
def shared : Store :=
  let filled : StoreM Unit := do
    let _ ← enqueue "server" "case" "item" "Hayabusa"
    let _ ← enqueue "server" "case" "item" "Plaso"
    let _ ← enqueue "server" "case" "item" "Hayabusa"
    let _ ← enqueue "server" "case" "item" "Plaso"
    let _ ← claimNext "server" "first" ["Hayabusa"]
    let _ ← claimNext "server" "second" ["Plaso"]
  (filled { supply := .counting }).2

/-- There each of two further workers gets a job whoever asks first.  A report on the second
worker's job can come before or after the release of the first one, a report on the first one's
cannot; both are applied, and a second one is not. -/
theorem independent_operations_commute_shared :
    let claim (worker module : String) :=
      Option.map Job.untimed <$> claimNext "server" worker [module]
    (∃ j j', (claim "third" "Plaso" shared).1 = .ok (some j) ∧
        (claim "fourth" "Hayabusa" shared).1 = .ok (some j') ∧
        Commute (claim "third" "Plaso") (claim "fourth" "Hayabusa") shared) ∧
      Commute (ack "j" .success "") (ack "jj" .failed "no disk") shared ∧
      Commute (releaseWorkerJobs "first") (releaseWorkerJobs "second") shared ∧
      Commute (ack "jj" .success "") (releaseWorkerJobs "first") shared ∧
      ¬ Commute (ack "j" .success "") (releaseWorkerJobs "first") shared ∧
      (ack "j" .success "" shared).1 = .ok true ∧ Repeats (ack "j" .success "") false shared := by
  intro claim
  obtain ⟨claims, reports, releases, mixed, needed, again, -, -⟩ :=
    independent_operations_commute shared
  refine ⟨⟨_, _, rfl, rfl, claims _ _ _ _ _ _ (by simp)⟩,
    reports _ _ _ _ _ _ (by decide), releases _ _ (by decide), mixed _ _ _ _ (by decide +kernel),
    fun commute => ?_, by decide +kernel, again _ _ _ rfl⟩
  have free := needed _ _ _ _ rfl rfl commute
  exact absurd free (by decide +kernel)

end Store
end Casework
