/-
# What became of a worker's jobs

Of a job that the task of a worker has claimed it can be told at any later moment where it is.  It
runs under the worker, or a report on it has arrived, or the task has failed it for want of a
record, or the task has stopped and given it back.  A job whose line was written was not failed.

This is kept by every action that leaves the job table in reach (`Fates.act`), together with what
the worker sees of it: the lines are signs of life and jobs, and no job comes twice.

A task that has stopped gives back whatever runs under its worker (`Owned.gives_back`).  Once it is
at its end nothing runs there any more (`Fates.idle`), so every job that was claimed for the worker
was reported, failed or given back (`Fates.ended`).
-/

import Casework.Proofs.Dispatch.Ownership
import Casework.Proofs.Dispatch.Tasks

namespace Casework
namespace Dispatch

/-- The lines that a worker sees, in their order. -/
def linesTo (worker : WorkerToken) (past : List Moment) : List JobDescriptor :=
  past.flatMap fun m => m.events.filterMap fun
    | .line other d => if other = worker then some d else none
    | .closed _ => none

/-- A report on a job has arrived. -/
def Reported (past : List Moment) (id : JobId) : Prop :=
  ∃ m ∈ past, ∃ report, m.action = .request (.ack report) ∧ report.id = id

/-- The task of a worker has given a job back. -/
def GaveBack (past : List Moment) (worker : WorkerToken) (id : JobId) : Prop :=
  ∃ m ∈ past, m.GivesBack worker id

/-- The task of a worker fails a job, a record of which is gone. -/
def Moment.Fails (m : Moment) (worker : WorkerToken) (id : JobId) : Prop :=
  ∃ written missing, m.action = .proceed worker written ∧
    m.before.phase? worker = some (.failing id missing)

/-- The task of a worker is at its end: it has given its jobs back, and may be gone. -/
def Ended (s : Server) (worker : WorkerToken) : Prop :=
  ∀ p, s.phase? worker = some p → p = .released

/-- What became of the jobs of a worker since it has connected. -/
structure Fates (worker : WorkerToken) (past : List Moment) (s : Server) : Prop where
  owned : Owned s
  ledger : ∃ before, Ledger (before ++ past) s
  task : (∃ p, s.phase? worker = some p ∧ p.Sane worker) ∨ Gone worker s
  hand : ∀ p id, s.phase? worker = some p → p.inHand? = some id →
    RunsUnder s.store.jobs.rows worker id ∨ Reported past id
  handed : ∀ m ∈ past, ∀ id, m.Hands worker id →
    RunsUnder s.store.jobs.rows worker id ∨ Reported past id ∨ GaveBack past worker id
  claimed : ∀ m ∈ past, ∀ id, m.Claims worker id →
    RunsUnder s.store.jobs.rows worker id ∨ Reported past id ∨ GaveBack past worker id ∨
      ∃ m ∈ past, m.Fails worker id
  released : ∀ m ∈ past, m.action = .release worker → m.before.phase? worker = some .leaving →
    ∀ id, RunsUnder m.before.store.jobs.rows worker id → m.GivesBack worker id
  lines : ∀ d ∈ linesTo worker past, d = .keepAlive worker ∨ d.case?.isSome = true
  distinct : (((linesTo worker past).filter fun d => d.case?.isSome).map JobDescriptor.id).Nodup

variable {s : Server} {a : Action} {past : List Moment} {m : Moment} {worker : WorkerToken}
  {id : JobId}

/-! ## The past grows -/

/-- The lines to a worker are those that were written on its stream. -/
theorem mem_linesTo {d : JobDescriptor} :
    d ∈ linesTo worker past ↔ ∃ m ∈ past, .line worker d ∈ m.events := by
  simp only [linesTo, List.mem_flatMap, List.mem_filterMap]
  constructor
  · rintro ⟨m, hm, e, he, shown⟩
    cases e with
    | line other d' =>
      obtain ⟨rfl, same⟩ := Option.ite_none_right_eq_some.1 shown
      obtain rfl := Option.some.inj same
      exact ⟨m, hm, he⟩
    | closed other => cases shown
  · rintro ⟨m, hm, he⟩
    exact ⟨m, hm, _, he, if_pos rfl⟩

/-- Later lines come after earlier ones. -/
theorem linesTo_append (past more : List Moment) :
    linesTo worker (past ++ more) = linesTo worker past ++ linesTo worker more :=
  List.flatMap_append

/-- A report stays reported. -/
theorem Reported.snoc (h : Reported past id) (m : Moment) : Reported (past ++ [m]) id := by
  obtain ⟨m', hm', reported⟩ := h
  exact ⟨m', List.mem_append_left _ hm', reported⟩

/-- What was given back stays given back. -/
theorem GaveBack.snoc (h : GaveBack past worker id) (m : Moment) :
    GaveBack (past ++ [m]) worker id := by
  obtain ⟨m', hm', given⟩ := h
  exact ⟨m', List.mem_append_left _ hm', given⟩

/-- A line that is a job's hands the job out. -/
theorem hands_of_mem_linesTo {d : JobDescriptor} (h : d ∈ linesTo worker past)
    (case? : d.case?.isSome = true) : ∃ m ∈ past, m.Hands worker d.id := by
  obtain ⟨m, hm, shown⟩ := mem_linesTo.1 h
  exact ⟨m, hm, d, shown, case?, rfl⟩

/-- One action shows a worker no line, or the one that its task was about to write. -/
theorem linesTo_act {p : ConnectionPhase} (sound : Sound s) (h : s.phase? worker = some p) :
    linesTo worker [moment s a] = [] ∨
      ∃ d, linesTo worker [moment s a] = [d] ∧ p = .writing d := by
  have within : (linesTo worker [moment s a]).length ≤ 1 := by
    have few := (act_effect sound.keyed a).length_events_le
    refine Nat.le_trans ?_ few
    simpa [linesTo, moment] using List.length_filterMap_le _ (act s a).1
  rcases lines : linesTo worker [moment s a] with _ | ⟨d, rest⟩
  · exact .inl rfl
  · have none : rest = [] := by
      rw [lines] at within
      simpa using within
    subst none
    refine .inr ⟨d, rfl, line_act (a := a) h ?_⟩
    obtain ⟨m, hm, shown⟩ := mem_linesTo.1 (lines ▸ List.mem_singleton_self d)
    obtain rfl := List.mem_singleton.1 hm
    exact shown

/-! ## One action -/

/-- A task that fails a job has nothing in hand afterwards. -/
theorem empty_handed_of_fails {missing : String}
    (h : s.phase? worker = some (.failing id missing)) (written : Bool) :
    ∃ p, (act s (.proceed worker written)).2.phase? worker = some p ∧ p.inHand? = none := by
  have phase : (s.connection? worker).map Connection.phase = some (.failing id missing) := h
  change ∃ p, (s.proceed worker written).2.phase? worker = _ ∧ _
  unfold Server.proceed
  rw [phase]
  refine ⟨_, phase?_await_self h _ _, ?_⟩
  generalize (Store.ack id .failed _ s.store).1 = answer
  cases answer <;> rfl

/-- Nothing runs under a worker whose task has given its jobs back. -/
theorem Owned.idle_of_released (h : Owned s) (done : s.phase? worker = some .released)
    (id : JobId) : ¬ RunsUnder s.store.jobs.rows worker id := by
  rintro ⟨r, hr, -, runs, own⟩
  obtain ⟨c, found, released⟩ := Option.map_eq_some_iff.1 done
  obtain ⟨hc, rfl⟩ := mem_of_connection? found
  exact h.idle c hc released r hr runs own

/-- **A task that has stopped gives everything back** that runs under its worker. -/
theorem Owned.gives_back (h : Owned s) (stopped : s.phase? worker = some .leaving)
    (runs : RunsUnder s.store.jobs.rows worker id) :
    (moment s (.release worker)).GivesBack worker id := by
  have after : (Dispatch.act s (.release worker)).2.phase? worker = some .released := by
    rw [Dispatch.act, whenIn_of_phase? stopped, phase?_release, stopped]
    rfl
  obtain still | ⟨report, arrives, -⟩ | ⟨_, _, _, proceeds, -⟩ | given :=
    RunsUnder.act h.sound runs (.release worker)
  · have owned : Owned (Dispatch.act s (.release worker)).2 := h.act (by simp)
    exact absurd still (owned.idle_of_released after id)
  · cases arrives
  · cases proceeds
  · exact given

namespace Fates

/-- The job that a task has in hand is held by its worker, and its line was not written. -/
theorem hand_held (h : Fates worker past s) {other : WorkerToken} {p : ConnectionPhase}
    (phase : s.phase? other = some p) (hand : p.inHand? = some id) :
    Holds s.store.jobs.rows other id ∧ ∀ m ∈ past, ¬ m.Hands other id := by
  obtain ⟨before, ledger⟩ := h.ledger
  obtain ⟨c, found, rfl⟩ := Option.map_eq_some_iff.1 phase
  obtain ⟨hc, rfl⟩ := mem_of_connection? found
  obtain ⟨holds, new⟩ := ledger.hand c hc id hand
  exact ⟨holds, fun m hm => new m (List.mem_append_right _ hm)⟩

/-- **A job that runs under the worker** goes on to, or a report on it arrives, or the worker's task
fails it or gives it back. -/
theorem runs_act (h : Fates worker past s) (runs : RunsUnder s.store.jobs.rows worker id)
    (a : Action) :
    RunsUnder (act s a).2.store.jobs.rows worker id ∨ Reported (past ++ [moment s a]) id ∨
      (moment s a).GivesBack worker id ∨ (moment s a).Fails worker id := by
  have last : moment s a ∈ past ++ [moment s a] :=
    List.mem_append_right _ (List.mem_singleton_self _)
  obtain still | ⟨report, arrives, same⟩ | ⟨other, missing, written, proceeds, fails⟩ | given :=
    RunsUnder.act h.owned.sound runs a
  · exact .inl still
  · exact .inr (.inl ⟨_, last, report, arrives, same⟩)
  · obtain ⟨holds, -⟩ := h.hand_held fails rfl
    obtain rfl := runs.unique h.owned.sound.keyed holds
    exact .inr (.inr (.inr ⟨written, missing, proceeds, fails⟩))
  · exact .inr (.inr (.inl given))

/-- After an action the task is in a sane phase, or gone. -/
theorem task_act (h : Fates worker past s) (a : Action) :
    (∃ p, (act s a).2.phase? worker = some p ∧ p.Sane worker) ∨ Gone worker (act s a).2 := by
  obtain ⟨p, phase, sane⟩ | gone := h.task
  · obtain ⟨same, -⟩ | ⟨p', goes, after⟩ | ⟨rfl, rfl, -⟩ := phase?_act phase a
    · exact .inl ⟨p, same, sane⟩
    · exact .inl ⟨p', after, goes.sane⟩
    · exact .inr (h.owned.gone_forget phase)
  · exact .inr (gone.act h.owned.sound a)

/-- A job in hand runs under its worker, or was reported. -/
theorem hand_act (h : Fates worker past s) {p : ConnectionPhase}
    (phase : (act s a).2.phase? worker = some p) (hand : p.inHand? = some id) :
    RunsUnder (act s a).2.store.jobs.rows worker id ∨ Reported (past ++ [moment s a]) id := by
  obtain ⟨p₀, before, old⟩ | claims := Dispatch.hand_act h.owned.sound phase hand
  · obtain runs | reported := h.hand p₀ id before old
    · obtain still | reported | given | ⟨written, missing, rfl, fails⟩ := h.runs_act runs a
      · exact .inl still
      · exact .inr reported
      · -- a task with a job in hand has not stopped, so it gave nothing back
        obtain rfl := Option.some.inj (before.symm.trans given.stopped)
        cases old
      · obtain ⟨p', after, empty⟩ := empty_handed_of_fails fails written
        obtain rfl := Option.some.inj (phase.symm.trans after)
        rw [empty] at hand
        cases hand
    · exact .inr (reported.snoc _)
  · exact .inl claims.runs

/-- A job that was handed over runs under its worker, was reported, or was given back. -/
theorem handed_act (h : Fates worker past s) (hm : m ∈ past ++ [moment s a])
    (hands : m.Hands worker id) :
    RunsUnder (act s a).2.store.jobs.rows worker id ∨ Reported (past ++ [moment s a]) id ∨
      GaveBack (past ++ [moment s a]) worker id := by
  obtain hm | now := List.mem_append.1 hm
  · obtain runs | reported | given := h.handed m hm id hands
    · obtain still | reported | given | ⟨written, missing, -, fails⟩ := h.runs_act runs a
      · exact .inl still
      · exact .inr (.inl reported)
      · exact .inr (.inr ⟨_, by simp, given⟩)
      · exact absurd hands ((h.hand_held fails rfl).2 m hm)
    · exact .inr (.inl (reported.snoc _))
    · exact .inr (.inr (given.snoc _))
  · -- the line has just been written, by the task that had the job in hand
    obtain rfl := List.mem_singleton.1 now
    obtain ⟨d, shown, case?, rfl⟩ := hands
    obtain ⟨⟨c, hc, rfl, writing⟩, rows⟩ := (act_effect h.owned.sound.keyed a).line shown
    have hand : c.phase.inHand? = some d.id := by simp [writing, ConnectionPhase.inHand?, case?]
    obtain runs | reported := h.hand c.phase d.id (h.owned.sound.phase?_eq hc) hand
    · exact .inl (rows ▸ runs)
    · exact .inr (.inl (reported.snoc _))

/-- A job that was claimed runs under its worker, was reported, was given back, or was failed. -/
theorem claimed_act (h : Fates worker past s) (hm : m ∈ past ++ [moment s a])
    (claims : m.Claims worker id) :
    RunsUnder (act s a).2.store.jobs.rows worker id ∨ Reported (past ++ [moment s a]) id ∨
      GaveBack (past ++ [moment s a]) worker id ∨
      ∃ m ∈ past ++ [moment s a], m.Fails worker id := by
  obtain hm | now := List.mem_append.1 hm
  · obtain runs | reported | given | ⟨m', hm', fails⟩ := h.claimed m hm id claims
    · obtain still | reported | given | fails := h.runs_act runs a
      · exact .inl still
      · exact .inr (.inl reported)
      · exact .inr (.inr (.inl ⟨_, by simp, given⟩))
      · exact .inr (.inr (.inr ⟨_, by simp, fails⟩))
    · exact .inr (.inl (reported.snoc _))
    · exact .inr (.inr (.inl (given.snoc _)))
    · exact .inr (.inr (.inr ⟨m', List.mem_append_left _ hm', fails⟩))
  · obtain rfl := List.mem_singleton.1 now
    exact .inl claims.runs

/-- A task that stops while a job runs under it gives the job back. -/
theorem released_act (h : Fates worker past s) (hm : m ∈ past ++ [moment s a])
    (releases : m.action = .release worker) (stopped : m.before.phase? worker = some .leaving)
    (runs : RunsUnder m.before.store.jobs.rows worker id) : m.GivesBack worker id := by
  obtain hm | now := List.mem_append.1 hm
  · exact h.released m hm releases stopped id runs
  · obtain rfl := List.mem_singleton.1 now
    obtain rfl : a = .release worker := releases
    exact h.owned.gives_back stopped runs

/-- **No job comes twice,** and what comes besides is a sign of life. -/
theorem lines_act (h : Fates worker past s) (a : Action) :
    (∀ d ∈ linesTo worker (past ++ [moment s a]),
        d = .keepAlive worker ∨ d.case?.isSome = true) ∧
      (((linesTo worker (past ++ [moment s a])).filter fun d => d.case?.isSome).map
        JobDescriptor.id).Nodup := by
  have silent (none : linesTo worker [moment s a] = []) :
      linesTo worker (past ++ [moment s a]) = linesTo worker past := by
    rw [linesTo_append, none, List.append_nil]
  obtain ⟨p, phase, sane⟩ | gone := h.task
  · obtain none | ⟨d, one, rfl⟩ := linesTo_act (a := a) h.owned.sound phase
    · rw [silent none]
      exact ⟨h.lines, h.distinct⟩
    · rw [linesTo_append, one]
      refine ⟨List.forall_mem_append.2 ⟨h.lines, List.forall_mem_singleton.2 (sane d rfl)⟩, ?_⟩
      rw [List.filter_append, List.map_append]
      cases case? : d.case?.isSome with
      | false => simpa [List.filter_cons, case?] using h.distinct
      | true =>
        -- the job was in hand, so its line was not written before
        obtain ⟨-, new⟩ := h.hand_held phase (if_pos case?)
        have other : ∀ d' ∈ linesTo worker past, d'.case?.isSome = true → d'.id ≠ d.id := by
          intro d' hd' job same
          obtain ⟨m, hm, hands⟩ := hands_of_mem_linesTo hd' job
          exact new m hm (same ▸ hands)
        simp only [List.filter_cons, case?, if_true, List.filter_nil, List.map_cons, List.map_nil,
          List.nodup_append]
        refine ⟨h.distinct, List.nodup_singleton _, fun id hid id' hid' => ?_⟩
        obtain rfl := List.mem_singleton.1 hid'
        obtain ⟨d', hd', rfl⟩ := List.mem_map.1 hid
        obtain ⟨hd', job⟩ := List.mem_filter.1 hd'
        exact other d' hd' job
  · -- a worker that is gone sees nothing any more
    have none : linesTo worker [moment s a] = [] := by
      refine List.eq_nil_iff_forall_not_mem.2 fun d hd => ?_
      obtain ⟨m, hm, shown⟩ := mem_linesTo.1 hd
      obtain rfl := List.mem_singleton.1 hm
      obtain ⟨⟨c, hc, same, -⟩, -⟩ := (act_effect h.owned.sound.keyed a).line shown
      exact gone.noTask c hc same
    rw [silent none]
    exact ⟨h.lines, h.distinct⟩

/-- **The fates of a worker's jobs** can be told after every action that leaves the job table in
reach. -/
theorem act (h : Fates worker past s) (ne : a ≠ .reach .jobs true) :
    Fates worker (past ++ [moment s a]) (Dispatch.act s a).2 := by
  obtain ⟨before, ledger⟩ := h.ledger
  obtain ⟨lines, distinct⟩ := h.lines_act a
  exact {
    owned := h.owned.act ne
    ledger := ⟨before, by rw [← List.append_assoc]; exact ledger.act a⟩
    task := h.task_act a
    hand := fun p id phase hand => h.hand_act phase hand
    handed := fun m hm id hands => h.handed_act hm hands
    claimed := fun m hm id claims => h.claimed_act hm claims
    released := fun m hm releases stopped id runs => h.released_act hm releases stopped runs
    lines := lines
    distinct := distinct }

/-- **Nothing runs under a worker** whose task is at its end. -/
theorem idle (h : Fates worker past s) (ended : Ended s worker) (id : JobId) :
    ¬ RunsUnder s.store.jobs.rows worker id := by
  obtain ⟨p, phase, -⟩ | gone := h.task
  · exact h.owned.idle_of_released (ended p phase ▸ phase) id
  · rintro ⟨r, hr, -, runs, own⟩
    exact gone.idle r hr runs own

/-- **Once the task is at its end** every job that was claimed for the worker was reported, given
back or failed. -/
theorem ended (h : Fates worker past s) (ended : Ended s worker) (hm : m ∈ past)
    (claims : m.Claims worker id) :
    Reported past id ∨ GaveBack past worker id ∨ ∃ m ∈ past, m.Fails worker id :=
  (h.claimed m hm id claims).resolve_left (h.idle ended id)

end Fates

/-- When a worker has connected nothing was claimed for it yet. -/
theorem fates_start {before : List Moment} (owned : Owned s) (ledger : Ledger before s)
    (serving : s.phase? worker = some .serving) : Fates worker [] s where
  owned := owned
  ledger := ⟨before, by rwa [List.append_nil]⟩
  task := .inl ⟨.serving, serving, fun d writes => nomatch writes⟩
  hand := fun p id phase hand => by
    obtain rfl := Option.some.inj (serving.symm.trans phase)
    cases hand
  handed := fun m hm => absurd hm List.not_mem_nil
  claimed := fun m hm => absurd hm List.not_mem_nil
  released := fun m hm => absurd hm List.not_mem_nil
  lines := fun d hd => absurd hd List.not_mem_nil
  distinct := List.nodup_nil

end Dispatch
end Casework
