/-
# Histories of the job store

Any number of servers and workers call the store, in any order and with any arguments.  Each
operation on jobs is one statement, so what they do together is a list of calls carried out one
after the other: `after` is the store that such a list leaves, `history` its turns, each with the
store it met, its answer and the store it left.

From the empty store on the job table stays sound (`Sound`): it keeps its key, its rows are tidy
and can be read.  On a sound table every call comes to one of a few outcomes (`Outcome`), which
tie its answer to the change it made (`run_outcome`); the theorems about histories rest on these.
-/

import Casework.Proofs.Store.Operations

namespace Casework
namespace Queue

/-- A call on jobs, by any server and for any worker. -/
inductive Call where
  | enqueue (server : InstanceToken) (caseId evidenceId moduleName : String)
  | claimNext (server : InstanceToken) (worker : WorkerToken) (modules : List String)
  | ack (id : JobId) (status : JobStatus) (error : String)
  | releaseWorker (worker : WorkerToken)
  | releaseStale (server : InstanceToken)

/-- The answer to a call. -/
inductive Reply where
  | queued (job : Job)
  | handed (job? : Option Job)
  | applied (changed : Bool)
  | released (count : Nat)

/-- Carries a call out. -/
def Call.run : Call → StoreM Reply
  | .enqueue server caseId evidenceId moduleName =>
    .queued <$> Store.enqueue server caseId evidenceId moduleName
  | .claimNext server worker modules => .handed <$> Store.claimNext server worker modules
  | .ack id status error => .applied <$> Store.ack id status error
  | .releaseWorker worker => .released <$> Store.releaseWorkerJobs worker
  | .releaseStale server => .released <$> Store.releaseStaleJobs server

/-- A call with the store it met, its answer, and the store it left. -/
structure Turn where
  call : Call
  before : Store
  answer : Except Error Reply
  after : Store

/-- The turn of a call. -/
def Call.turn (c : Call) (s : Store) : Turn := ⟨c, s, (c.run s).1, (c.run s).2⟩

/-- The store after some calls. -/
def after : List Call → Store → Store
  | [], s => s
  | c :: calls, s => after calls (c.turn s).after

/-- The turns of some calls. -/
def history : List Call → Store → List Turn
  | [], _ => []
  | c :: calls, s => c.turn s :: history calls (c.turn s).after

/-- The store without any row. -/
def empty (supply : Supply) : Store := { supply := supply }

/-- Calls after calls leave what all of them leave. -/
theorem after_append (calls more : List Call) (s : Store) :
    after (calls ++ more) s = after more (after calls s) := by
  induction calls generalizing s with
  | nil => rfl
  | cons c calls ih => exact ih _

/-- The history of calls after calls is that of all of them. -/
theorem history_append (calls more : List Call) (s : Store) :
    history (calls ++ more) s = history calls s ++ history more (after calls s) := by
  induction calls generalizing s with
  | nil => rfl
  | cons c calls ih => exact congrArg _ (ih _)

/-- A turn of a history is that of a call, on the store that the calls before it left. -/
theorem history_split {calls : List Call} {s : Store} {front back : List Turn} {t : Turn}
    (h : history calls s = front ++ t :: back) :
    ∃ earlier c later, calls = earlier ++ c :: later ∧ front = history earlier s ∧
      t = c.turn (after earlier s) ∧ back = history later t.after := by
  induction front generalizing calls s with
  | nil =>
    cases calls with
    | nil => simp [history] at h
    | cons c calls =>
      obtain ⟨rfl, rfl⟩ := List.cons.inj h
      exact ⟨[], c, calls, rfl, rfl, rfl, rfl⟩
  | cons u front ih =>
    cases calls with
    | nil => simp [history] at h
    | cons c calls =>
      obtain ⟨rfl, rest⟩ := List.cons.inj h
      obtain ⟨earlier, d, later, rfl, rfl, ht, hb⟩ := ih rest
      exact ⟨c :: earlier, d, later, rfl, rfl, ht, hb⟩

/-! ## Sound tables -/

/-- A job table as the operations make it. -/
structure Sound (rows : List JobRow) : Prop where
  keyed : Keyed rows
  tidy : ∀ r ∈ rows, r.Tidy
  readable : ∀ r ∈ rows, r.createdAt?.isSome = true

theorem sound_nil : Sound [] := ⟨List.nodup_nil, by simp, by simp⟩

/-- **A change that is allowed** leaves a sound table. -/
theorem Sound.apply {rows : List JobRow} {ch : JobChange} (h : Sound rows)
    (allowed : ch.Allowed rows) : Sound (ch.apply rows) := by
  refine ⟨JobChange.keyed_apply allowed h.keyed, fun r' hr' => ?_, fun r' hr' => ?_⟩
  · obtain ⟨r, hr, rfl⟩ | new := JobChange.mem_apply.1 hr'
    · exact JobChange.onRow_tidy allowed (h.tidy r hr)
    · obtain ⟨-, _, _, _, _, _, _, rfl⟩ := JobChange.added_scheduled allowed new
      exact ⟨fun ne => absurd rfl ne, fun _ => rfl⟩
  · obtain ⟨r, hr, rfl⟩ | new := JobChange.mem_apply.1 hr'
    · rw [(JobChange.onRow_sameJob ch r).createdAt]
      exact h.readable r hr
    · obtain ⟨-, _, _, _, _, _, _, rfl⟩ := JobChange.added_scheduled allowed new
      rfl

/-- What a call can come to on some rows: its answer, with the change that it made. -/
inductive Outcome (rows : List JobRow) : Call → Except Error Reply → JobChange → Prop where
  | failed (c : Call) (e : Error) : Outcome rows c (.error e) .idle
  | queued {server : InstanceToken} {caseId evidenceId moduleName : String} {row : JobRow}
      {job : Job} (read : row.job? = some job) :
      Outcome rows (.enqueue server caseId evidenceId moduleName) (.ok (.queued job)) (.queue row)
  | nothing (server : InstanceToken) (worker : WorkerToken) (modules : List String) :
      Outcome rows (.claimNext server worker modules) (.ok (.handed none)) .idle
  | handed {server : InstanceToken} {worker : WorkerToken} {modules : List String} {r : JobRow}
      {now : Timestamp} {job : Job} (mem : r ∈ rows) (waits : r.isClaimable modules = true)
      (read : (r.claimed worker server now).job? = some job) :
      Outcome rows (.claimNext server worker modules) (.ok (.handed (some job)))
        (.claim r.id worker server now)
  | applied (id : JobId) (status : JobStatus) (error kept : String) (now : Timestamp) :
      Outcome rows (.ack id status error)
        (.ok (.applied (rows.any fun r => r.id == id && r.status == .running)))
        (.finish id status kept now)
  | released (worker : WorkerToken) (now : Timestamp) :
      Outcome rows (.releaseWorker worker)
        (.ok (.released (rows.countP (JobRow.isHeldBy worker)))) (.release worker now)
  | recovered (server : InstanceToken) (now : Timestamp) :
      Outcome rows (.releaseStale server)
        (.ok (.released (rows.countP (JobRow.isStale server)))) (.recover server now)

/-- The turn of a call is what its operation comes to. -/
theorem turn_eq {α : Type} {c : Call} {op : StoreM α} {reply : α → Reply} {s s' : Store}
    {answer : Except Error α} (h : c.run = reply <$> op) (run : op s = (answer, s')) :
    c.turn s = ⟨c, s, answer.map reply, s'⟩ := by
  simp [Call.turn, h, run]

/-- **Every call comes to one of its outcomes.** -/
theorem run_outcome {s : Store} (sound : Sound s.jobs.rows) (c : Call) :
    ∃ ch, s.Changed ch (c.turn s).after ∧ Outcome s.jobs.rows c (c.turn s).answer ch := by
  cases c with
  | enqueue server caseId evidenceId moduleName =>
    rcases run : Store.enqueue server caseId evidenceId moduleName s with ⟨answer, s'⟩
    rw [turn_eq rfl run]
    obtain ⟨ch, changed, ⟨rfl, e, rfl⟩ | ⟨row, job, rfl, read, rfl⟩⟩ := Store.enqueue_changed run
    · exact ⟨_, changed, .failed _ e⟩
    · exact ⟨_, changed, .queued read⟩
  | claimNext server worker modules =>
    rcases run : Store.claimNext server worker modules s with ⟨answer, s'⟩
    rw [turn_eq rfl run]
    obtain ⟨ch, changed, ⟨rfl, he⟩ | ⟨r, hr, now, waits, rfl, rfl⟩⟩ :=
      Store.claimNext_changed sound.keyed run
    · rcases answer with e | _ | job
      · exact ⟨_, changed, .failed _ e⟩
      · exact ⟨_, changed, .nothing ..⟩
      · exact absurd rfl (he job)
    · obtain ⟨job, read⟩ := JobRow.read_claimed (sound.readable r hr) worker server now
      refine ⟨_, changed, ?_⟩
      rw [JobRow.read, read]
      exact .handed hr waits read
  | ack id status error =>
    rcases run : Store.ack id status error s with ⟨answer, s'⟩
    rw [turn_eq rfl run]
    obtain ⟨ch, changed, ⟨rfl, e, rfl⟩ | ⟨kept, now, rfl, rfl⟩⟩ := Store.ack_changed run
    · exact ⟨_, changed, .failed _ e⟩
    · exact ⟨_, changed, .applied ..⟩
  | releaseWorker worker =>
    rcases run : Store.releaseWorkerJobs worker s with ⟨answer, s'⟩
    rw [turn_eq rfl run]
    obtain ⟨-, changed, e, rfl⟩ | ⟨-, now, changed, rfl⟩ := Store.releaseWorkerJobs_changed run
    · exact ⟨_, changed, .failed _ e⟩
    · exact ⟨_, changed, .released ..⟩
  | releaseStale server =>
    rcases run : Store.releaseStaleJobs server s with ⟨answer, s'⟩
    rw [turn_eq rfl run]
    obtain ⟨-, changed, e, rfl⟩ | ⟨-, now, changed, rfl⟩ := Store.releaseStaleJobs_changed run
    · exact ⟨_, changed, .failed _ e⟩
    · exact ⟨_, changed, .recovered ..⟩

/-- **Soundness is kept** by every call, and so by every list of calls. -/
theorem Sound.turn {s : Store} (h : Sound s.jobs.rows) (c : Call) :
    Sound (c.turn s).after.jobs.rows := by
  obtain ⟨ch, changed, -⟩ := run_outcome h c
  exact changed.rows ▸ h.apply changed.allowed

/-- **A sound table stays sound,** whatever is called. -/
theorem Sound.after {s : Store} (h : Sound s.jobs.rows) (calls : List Call) :
    Sound (after calls s).jobs.rows := by
  induction calls generalizing s with
  | nil => exact h
  | cons c calls ih => exact ih (h.turn c)

/-- Every table that comes about is sound. -/
theorem sound_after_empty (supply : Supply) (calls : List Call) :
    Sound (Queue.after calls (empty supply)).jobs.rows :=
  Sound.after sound_nil calls

end Queue
end Casework
