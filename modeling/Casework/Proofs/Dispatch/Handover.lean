/-
# No job in two hands

What a run shows the workers is told by its `Moment`s: each action with the server it met, what was
seen, and the server it left.  A moment `Hands` a job to a worker if the job's line is written on
the worker's stream, and `GivesBack` a job if a task that has stopped puts it back into the queue.

`handed_over_after_release` says that between two moments that hand out one job there is one at
which the first worker gave it back, and that the second worker is another one.  Reports play no
part in it, whenever they come and whoever sends them: a job that is over is not claimed again.

The argument links the lines, the tasks and the rows (`Ledger`).  A task that has a job in hand
holds its row and has not written its line yet; a job whose line was written is still held by its
worker (`Holds`), or was given back since, and then the worker's task will not claim anything
(`Departed`).
-/

import Casework.Proofs.Dispatch.Effects

namespace Casework
namespace Dispatch

/-- An action with the server it met, what the workers saw, and the server it left. -/
structure Moment where
  before : Server
  action : Action
  events : List StreamEvent
  after : Server

/-- The moment of an action. -/
def moment (s : Server) (a : Action) : Moment := ⟨s, a, (act s a).1, (act s a).2⟩

/-- The moments of a run. -/
def moments : List Action → Server → List Moment
  | [], _ => []
  | a :: actions, s => moment s a :: moments actions (act s a).2

/-- The line of a job is written on a worker's stream; a sign of life shows no case. -/
def Moment.Hands (m : Moment) (worker : WorkerToken) (id : JobId) : Prop :=
  ∃ d, .line worker d ∈ m.events ∧ d.case?.isSome = true ∧ d.id = id

/-- The task of a worker, which has stopped, puts a job that it holds back into the queue. -/
structure Moment.GivesBack (m : Moment) (worker : WorkerToken) (id : JobId) : Prop where
  action : m.action = .release worker
  stopped : m.before.phase? worker = some .leaving
  done : m.after.phase? worker = some .released
  held : ∃ r ∈ m.before.store.jobs.rows, r.id = id ∧ r.status = .running ∧ r.workerToken = worker
  waits : ∃ r ∈ m.after.store.jobs.rows, r.id = id ∧ r.status = .scheduled

/-- The moments of two runs, one after the other, are those of the whole. -/
theorem moments_append (actions more : List Action) (s : Server) :
    moments (actions ++ more) s = moments actions s ++ moments more (run actions s) := by
  induction actions generalizing s with
  | nil => rfl
  | cons a actions ih => exact congrArg _ (ih _)

/-- A moment of a run is that of an action, on the server that the actions before it left. -/
theorem moments_split {actions : List Action} {s : Server} {past back : List Moment} {m : Moment}
    (h : moments actions s = past ++ m :: back) :
    ∃ early a, past = moments early s ∧ m = moment (run early s) a := by
  induction past generalizing actions s with
  | nil =>
    cases actions with
    | nil => simp [moments] at h
    | cons a actions => exact ⟨[], a, rfl, (List.cons.inj h).1.symm⟩
  | cons m₀ past ih =>
    cases actions with
    | nil => simp [moments] at h
    | cons a actions =>
      obtain ⟨rfl, rest⟩ := List.cons.inj h
      obtain ⟨early, b, rfl, rfl⟩ := ih rest
      exact ⟨a :: early, b, rfl, rfl⟩

/-- When one more moment has passed, a moment is this last one or one of those before. -/
theorem snoc_split {past front back : List Moment} {last m : Moment}
    (h : past ++ [last] = front ++ m :: back) :
    (back = [] ∧ front = past ∧ m = last) ∨
      ∃ middle, back = middle ++ [last] ∧ past = front ++ m :: middle := by
  rcases back.eq_nil_or_concat with rfl | ⟨middle, other, rfl⟩
  · obtain ⟨rfl, now⟩ := List.append_inj' h rfl
    exact .inl ⟨rfl, rfl, (List.singleton_inj.1 now).symm⟩
  · rw [List.concat_eq_append, ← List.cons_append, ← List.append_assoc] at h
    obtain ⟨rfl, now⟩ := List.append_inj' h rfl
    obtain rfl := List.singleton_inj.1 now
    exact .inr ⟨middle, List.concat_eq_append, rfl⟩

/-! ## Who holds a job -/

/-- The row of a job bears a worker's token and does not wait. -/
def Holds (rows : List JobRow) (worker : WorkerToken) (id : JobId) : Prop :=
  ∃ r ∈ rows, r.id = id ∧ r.workerToken = worker ∧ r.status ≠ .scheduled

/-- A worker whose task, if there still is one, has given its jobs back. -/
structure Departed (s : Server) (worker : WorkerToken) : Prop where
  drawn : s.store.supply.Drawn worker
  done : ∀ c ∈ s.dispatcher.connections, c.token = worker → c.phase = .released

variable {s s' : Server} {a : Action} {events : List StreamEvent} {worker : WorkerToken}
  {id : JobId} {c : Connection}

/-- A job is in the hands of one worker. -/
theorem Holds.unique {rows : List JobRow} (keyed : Keyed rows) {other : WorkerToken}
    (h : Holds rows worker id) (h' : Holds rows other id) : worker = other := by
  obtain ⟨r, hr, same, rfl, -⟩ := h
  obtain ⟨r', hr', same', rfl, -⟩ := h'
  rw [keyed.eq_of_id hr hr' (same.trans same'.symm)]

/-- A job that waits is in nobody's hands. -/
theorem Holds.not_scheduled {rows : List JobRow} (keyed : Keyed rows) (h : Holds rows worker id)
    {r : JobRow} (hr : r ∈ rows) (same : r.id = id) : r.status ≠ .scheduled := by
  obtain ⟨r', hr', same', -, busy⟩ := h
  exact keyed.eq_of_id hr hr' (same.trans same'.symm) ▸ busy

/-- A job leaves its holder by a release of the holder's jobs, or by a server's recovery. -/
theorem Holds.apply {rows : List JobRow} {ch : JobChange} (h : Holds rows worker id)
    (allowed : ch.Allowed rows) :
    Holds (ch.apply rows) worker id ∨
      ((∃ now, ch = .release worker now) ∨ ∃ server now, ch = .recover server now) ∧
        (∃ r ∈ rows, r.id = id ∧ r.status = .running ∧ r.workerToken = worker) ∧
        ∃ r ∈ ch.apply rows, r.id = id ∧ r.status = .scheduled := by
  obtain ⟨r, hr, rfl, rfl, busy⟩ := h
  have member : ch.onRow r ∈ ch.apply rows := JobChange.onRow_mem_apply hr
  obtain ⟨held, still⟩ | ⟨runs, waits, freed⟩ := JobChange.onRow_of_not_scheduled ch busy allowed
  · exact .inl ⟨_, member, JobChange.onRow_id ch r, held, still⟩
  · exact .inr ⟨freed, ⟨r, hr, rfl, runs, rfl⟩, _, member, JobChange.onRow_id ch r, waits⟩

/-- No progress of a task puts a job back into the queue. -/
theorem Progress.not_freed {rows : List JobRow} {ch : JobChange} {p p' : ConnectionPhase}
    (h : Progress rows c p ch events p') :
    ¬ ((∃ now, ch = .release worker now) ∨ ∃ server now, ch = .recover server now) := by
  cases h <;> simp

/-- No request puts a running job back into the queue. -/
theorem ByRequest.not_freed {ch : JobChange} (h : ByRequest ch) :
    ¬ ((∃ now, ch = .release worker now) ∨ ∃ server now, ch = .recover server now) := by
  cases h <;> simp

/-- The task of a token is where the list of tasks says. -/
theorem Sound.phase?_eq (h : Sound s) (hc : c ∈ s.dispatcher.connections) :
    s.phase? c.token = some c.phase := by
  cases found : s.connection? c.token with
  | none =>
    have other := List.find?_eq_none.1 found c hc
    simp at other
  | some c' =>
    obtain ⟨hc', same⟩ := mem_of_connection? found
    rw [h.eq_of_token hc' hc same] at found
    rw [Server.phase?, found]
    rfl

/-- A worker whose task has given its jobs back has departed. -/
theorem Sound.departed (h : Sound s) (done : s.phase? worker = some .released) :
    Departed s worker := by
  obtain ⟨c, found, released⟩ := Option.map_eq_some_iff.1 done
  obtain ⟨hc, rfl⟩ := mem_of_connection? found
  refine ⟨h.drawn c hc, fun c' hc' same => ?_⟩
  rw [h.eq_of_token hc' hc same]
  exact released

/-- A worker that has departed has no task, or one at its end. -/
theorem Departed.phase? (h : Departed s worker) :
    s.phase? worker = none ∨ s.phase? worker = some .released := by
  unfold Server.phase?
  cases found : s.connection? worker with
  | none => exact .inl rfl
  | some c =>
    obtain ⟨hc, token⟩ := mem_of_connection? found
    exact .inr (congrArg some (h.done c hc token))

/-- **A job stays with its worker** until the worker's task gives it back. -/
theorem Effect.holds (sound : Sound s) (h : Effect s a events s')
    (holds : Holds s.store.jobs.rows worker id) :
    Holds s'.store.jobs.rows worker id ∨ Moment.GivesBack ⟨s, a, events, s'⟩ worker id := by
  have sound' := sound.effect h
  cases h with
  | aside a stopping aside => exact .inl (aside.jobs ▸ holds)
  | requested a changed kind =>
    obtain kept | ⟨freed, -⟩ := holds.apply changed.allowed
    · exact .inl (changed.rows ▸ kept)
    · exact absurd freed kind.not_freed
  | reached lost => exact .inl holds
  | enrolled a drawn used task => exact .inl holds
  | advanced a found progress changed turned =>
    obtain kept | ⟨freed, -⟩ := holds.apply changed.allowed
    · exact .inl (changed.rows ▸ kept)
    · exact absurd freed progress.not_freed
  | @gaveBack c ch store connections found stopped given changed turned =>
    obtain kept | ⟨freed, held, waits⟩ := holds.apply changed.allowed
    · exact .inl (changed.rows ▸ kept)
    · right
      have own : worker = c.token := by
        obtain ⟨-, rfl⟩ | ⟨-, now, rfl⟩ := given
        · simp at freed
        · simpa [eq_comm] using freed
      subst own
      have before : s.phase? c.token = some .leaving := stopped ▸ sound.phase?_eq found
      have listed : c.token ∈ connections.map Connection.token :=
        turned.tokens.symm ▸ List.mem_map_of_mem found
      obtain ⟨c', hc', token⟩ := List.mem_map.1 listed
      obtain ⟨c₀, -, same, -, moved⟩ := turned.kept c' hc'
      rw [if_pos (same.symm.trans token)] at moved
      have after := sound'.phase?_eq hc'
      rw [token, moved] at after
      exact ⟨rfl, before, after, held, changed.rows ▸ waits⟩
  | forgot found done => exact .inl holds

/-- **Departed is departed,** whatever happens. -/
theorem Departed.effect (sound : Sound s) (h : Departed s worker) (e : Effect s a events s') :
    Departed s' worker := by
  obtain ⟨-, -, -, used⟩ := e.changed
  refine ⟨used.drawn h.drawn, fun c' hc' token => ?_⟩
  obtain ⟨new, -⟩ | ⟨c, hc, same, -, stays⟩ := e.task sound hc'
  · exact absurd (new ▸ token ▸ h.drawn) sound.fresh.not_drawn_next
  · have done := h.done c hc (same.symm.trans token)
    rw [stays done]
    exact done

/-! ## Lines, and what a task has in hand -/

/-- At most one thing is seen of a step of a task. -/
theorem Progress.length_events_le {rows : List JobRow} {ch : JobChange} {p p' : ConnectionPhase}
    (h : Progress rows c p ch events p') : events.length ≤ 1 := by
  cases h with
  | stops serves silent => obtain rfl | rfl := silent <;> simp
  | _ => simp

/-- An action shows the workers one thing at most. -/
theorem Effect.length_events_le (h : Effect s a events s') : events.length ≤ 1 := by
  cases h with
  | advanced a found progress changed turned => exact progress.length_events_le
  | _ => simp

/-- A line is seen when the task that was to write it has written it. -/
theorem Progress.line {rows : List JobRow} {ch : JobChange} {p p' : ConnectionPhase}
    {d : JobDescriptor} (h : Progress rows c p ch events p') (seen : .line worker d ∈ events) :
    worker = c.token ∧ p = .writing d ∧ p' = .serving ∧ ch = .idle := by
  cases h with
  | stops serves silent => obtain rfl | rfl := silent <;> simp at seen
  | writes =>
    obtain ⟨rfl, rfl⟩ := StreamEvent.line.inj (List.mem_singleton.1 seen)
    exact ⟨rfl, rfl, rfl, rfl⟩
  | _ => simp at seen

/-- A line is written by the task that was about to, and the job table stays as it is. -/
theorem Effect.line {d : JobDescriptor} (h : Effect s a events s')
    (seen : .line worker d ∈ events) :
    (∃ c ∈ s.dispatcher.connections, c.token = worker ∧ c.phase = .writing d) ∧
      s'.store.jobs.rows = s.store.jobs.rows := by
  cases h with
  | @advanced a c _ _ _ _ _ found progress changed turned =>
    obtain ⟨rfl, writing, -, rfl⟩ := progress.line seen
    exact ⟨⟨c, found, rfl, writing⟩, by rw [changed.rows, JobChange.apply_idle]⟩
  | _ => simp at seen

/-- What a task has in hand it had before, or it has just claimed a waiting job. -/
theorem Progress.hand {rows : List JobRow} {ch : JobChange} {p p' : ConnectionPhase}
    (h : Progress rows c p ch events p') (hand : p'.inHand? = some id) :
    events = [] ∧ (p.inHand? = some id ∨ p = .serving ∧ ∃ r ∈ rows, r.id = id ∧
      r.status = .scheduled ∧ ∃ server now, ch = .claim r.id c.token server now) := by
  cases h with
  | goesOn serves still same => exact ⟨rfl, .inl (same ▸ hand)⟩
  | @claims r server now job mem waits read =>
    have same : r.id = id := (JobRow.id_of_job? read).symm.trans (Option.some.inj hand)
    have scheduled := (JobRow.isClaimable_iff.1 waits).1
    exact ⟨rfl, .inr ⟨rfl, r, mem, same, scheduled, server, now, rfl⟩⟩
  | _ => simp [ConnectionPhase.inHand?] at hand

/-- What a task has in hand after an action it had before, and no line of its was written; or it
served, and has claimed a job that waited. -/
theorem Effect.hand (h : Effect s a events s') {c' : Connection}
    (hc' : c' ∈ s'.dispatcher.connections) (hand : c'.phase.inHand? = some id) :
    (∃ c ∈ s.dispatcher.connections, c.token = c'.token ∧ c.phase.inHand? = some id ∧
        ∀ d, .line c'.token d ∉ events) ∨
      ∃ c ∈ s.dispatcher.connections, c.token = c'.token ∧ c.phase = .serving ∧ events = [] ∧
        (∃ r ∈ s.store.jobs.rows, r.id = id ∧ r.status = .scheduled) ∧
        Holds s'.store.jobs.rows c'.token id := by
  cases h with
  | aside a stopping aside => exact .inl ⟨c', hc', rfl, hand, by simp⟩
  | requested a changed kind => exact .inl ⟨c', hc', rfl, hand, by simp⟩
  | reached lost => exact .inl ⟨c', hc', rfl, hand, by simp⟩
  | enrolled a drawn used task =>
    obtain old | new := List.mem_append.1 hc'
    · exact .inl ⟨c', old, rfl, hand, by simp⟩
    · obtain ⟨-, -, serving⟩ := task c' (by simpa using new)
      simp [serving, ConnectionPhase.inHand?] at hand
  | @advanced a c ch events phase store connections found progress changed turned =>
    obtain ⟨c₀, hc₀, token, -, moved⟩ := turned.kept c' hc'
    by_cases same : c₀.token = c.token
    · rw [if_pos same] at moved
      rw [moved] at hand
      have own : c.token = c'.token := same.symm.trans token.symm
      obtain ⟨rfl, old | ⟨serving, r, hr, rfl, waits, server, now, rfl⟩⟩ := progress.hand hand
      · exact .inl ⟨c, found, own, old, by simp⟩
      · refine .inr ⟨c, found, own, serving, rfl, ⟨r, hr, rfl, waits⟩, ?_⟩
        refine ⟨r.claimed c.token server now, ?_, rfl, own, by simp [JobRow.claimed]⟩
        rw [changed.rows, ← JobChange.onRow_claim c.token server now waits]
        exact JobChange.onRow_mem_apply hr
    · rw [if_neg same] at moved
      subst moved
      exact .inl ⟨c', hc₀, rfl, hand, fun d seen => same (progress.line seen).1⟩
  | @gaveBack c ch store connections found stopped given changed turned =>
    obtain ⟨c₀, hc₀, token, -, moved⟩ := turned.kept c' hc'
    by_cases same : c₀.token = c.token
    · rw [if_pos same] at moved
      simp [moved, ConnectionPhase.inHand?] at hand
    · rw [if_neg same] at moved
      exact .inl ⟨c', moved ▸ hc₀, rfl, hand, by simp⟩
  | forgot found done => exact .inl ⟨c', List.mem_of_mem_filter hc', rfl, hand, by simp⟩

/-! ## The ledger of a run -/

/-- How the lines that were written, the tasks and the rows hang together. -/
structure Ledger (past : List Moment) (s : Server) : Prop where
  sound : Sound s
  hand : ∀ c ∈ s.dispatcher.connections, ∀ id, c.phase.inHand? = some id →
    Holds s.store.jobs.rows c.token id ∧ ∀ m ∈ past, ¬ m.Hands c.token id
  lines : ∀ front m back worker id, past = front ++ m :: back → m.Hands worker id →
    Holds s.store.jobs.rows worker id ∨
      (∃ m' ∈ back, m'.GivesBack worker id) ∧ Departed s worker

variable {past : List Moment}

/-- A worker whose job waits, or which has a task that serves, has not been handed the job. -/
theorem Ledger.not_hands (h : Ledger past s) (hc : c ∈ s.dispatcher.connections)
    (serving : c.phase = .serving) {r : JobRow} (hr : r ∈ s.store.jobs.rows)
    (waits : r.status = .scheduled) : ∀ m ∈ past, ¬ m.Hands c.token r.id := by
  intro m hm hands
  obtain ⟨front, back, split⟩ := List.append_of_mem hm
  obtain holds | ⟨-, departed⟩ := h.lines front m back c.token r.id split hands
  · exact holds.not_scheduled h.sound.keyed hr rfl waits
  · have done := departed.done c hc rfl
    rw [serving] at done
    cases done

/-- A job in hand is held, and was not handed over before. -/
theorem Ledger.hand_act (h : Ledger past s) (a : Action) :
    ∀ c' ∈ (act s a).2.dispatcher.connections, ∀ id, c'.phase.inHand? = some id →
      Holds (act s a).2.store.jobs.rows c'.token id ∧
        ∀ m ∈ past ++ [moment s a], ¬ m.Hands c'.token id := by
  have e := act_effect h.sound.keyed a
  intro c' hc' id hand
  obtain ⟨c, hc, token, old, silent⟩ | ⟨c, hc, token, serving, quiet, ⟨r, hr, rfl, waits⟩, holds⟩ :=
    e.hand hc' hand
  · obtain ⟨holds, new⟩ := h.hand c hc id old
    rw [token] at holds new
    refine ⟨?_, List.forall_mem_append.2 ⟨new, List.forall_mem_singleton.2 ?_⟩⟩
    · obtain kept | given := e.holds h.sound holds
      · exact kept
      · -- a task with a job in hand has not stopped, so it gave nothing back
        have stopped : s.phase? c'.token = some .leaving := given.stopped
        rw [← token, h.sound.phase?_eq hc] at stopped
        rw [Option.some.inj stopped] at old
        cases old
    · rintro ⟨d, seen, -⟩
      exact silent d seen
  · refine ⟨holds, List.forall_mem_append.2 ⟨?_, List.forall_mem_singleton.2 ?_⟩⟩
    · exact token ▸ h.not_hands hc serving hr waits
    · rintro ⟨d, seen, -⟩
      have seen : .line c'.token d ∈ (act s a).1 := seen
      rw [quiet] at seen
      exact List.not_mem_nil seen

/-- A job that was handed over is held still, or was given back since. -/
theorem Ledger.lines_act (h : Ledger past s) (a : Action) :
    ∀ front m back worker id, past ++ [moment s a] = front ++ m :: back → m.Hands worker id →
      Holds (act s a).2.store.jobs.rows worker id ∨
        (∃ m' ∈ back, m'.GivesBack worker id) ∧ Departed (act s a).2 worker := by
  have e := act_effect h.sound.keyed a
  intro front m back worker id split hands
  obtain ⟨rfl, rfl, rfl⟩ | ⟨back, rfl, rfl⟩ := snoc_split split
  · -- the line has just been written, by a task that had the job in hand
    obtain ⟨d, seen, case?, rfl⟩ := hands
    obtain ⟨⟨c, hc, rfl, writing⟩, rows⟩ := e.line seen
    have hand : c.phase.inHand? = some d.id := by simp [writing, ConnectionPhase.inHand?, case?]
    exact .inl (rows ▸ (h.hand c hc d.id hand).1)
  · obtain holds | ⟨⟨m', hm', given⟩, departed⟩ := h.lines front m back worker id rfl hands
    · obtain kept | given := e.holds h.sound holds
      · exact .inl kept
      · have departed := (h.sound.effect e).departed given.done
        exact .inr ⟨⟨moment s a, by simp, given⟩, departed⟩
    · exact .inr ⟨⟨m', by simp [hm'], given⟩, departed.effect h.sound e⟩

/-- **The ledger is kept** by every action. -/
theorem Ledger.act (h : Ledger past s) (a : Action) :
    Ledger (past ++ [moment s a]) (Dispatch.act s a).2 :=
  ⟨h.sound.effect (act_effect h.sound.keyed a), h.hand_act a, h.lines_act a⟩

/-- **The ledger is kept** over a whole run. -/
theorem Ledger.run (h : Ledger past s) (actions : List Action) :
    Ledger (past ++ moments actions s) (Dispatch.run actions s) := by
  induction actions generalizing past s with
  | nil => simpa [moments, Dispatch.run] using h
  | cons a actions ih => simpa [moments, Dispatch.run] using ih (h.act a)

/-- Before anything was written the ledger is that of the tasks, and there are none. -/
theorem ledger_start (fresh : s.store.supply.Fresh) (keyed : Keyed s.store.jobs.rows)
    (noTask : s.dispatcher.connections = []) : Ledger [] s := by
  have none_ : ∀ c ∈ s.dispatcher.connections, False := by simp [noTask]
  refine ⟨⟨fresh, keyed, by simp [noTask], fun c hc => (none_ c hc).elim⟩,
    fun c hc => (none_ c hc).elim, ?_⟩
  intro front m back worker id split
  simp at split

/-- At most one thing is seen of an action. -/
theorem length_events_moments (sound : Sound s) (actions : List Action) :
    ∀ m ∈ moments actions s, m.events.length ≤ 1 := by
  induction actions generalizing s with
  | nil => simp [moments]
  | cons a actions ih =>
    have e := act_effect sound.keyed a
    rw [moments, List.forall_mem_cons]
    exact ⟨e.length_events_le, ih (sound.effect e)⟩

/-- **A job is handed over by its worker's release.**  Take a server without tasks on a store whose
job table has its key, with names that are handed out once, and any run of it.  Each action shows
the workers one thing at most.  If the line of one job is written at two moments of the run, it is
on the streams of two different workers, the task of the first has stopped and given the job back
in between, and by the second moment it has given its jobs back or is gone. -/
theorem handed_over_after_release (fresh : s.store.supply.Fresh) (keyed : Keyed s.store.jobs.rows)
    (noTask : s.dispatcher.connections = []) (actions : List Action) :
    (∀ m ∈ moments actions s, m.events.length ≤ 1) ∧
      ∀ front m₁ middle m₂ back w₁ w₂ id,
        moments actions s = front ++ m₁ :: (middle ++ m₂ :: back) →
        m₁.Hands w₁ id → m₂.Hands w₂ id →
        w₁ ≠ w₂ ∧ (∃ m ∈ middle, m.GivesBack w₁ id) ∧
          (m₂.before.phase? w₁ = none ∨ m₂.before.phase? w₁ = some .released) := by
  have start := ledger_start fresh keyed noTask
  refine ⟨length_events_moments start.sound actions, ?_⟩
  intro front m₁ middle m₂ back w₁ w₂ id split first second
  rw [← List.cons_append, ← List.append_assoc] at split
  obtain ⟨early, a, past, rfl⟩ := moments_split split
  have ledger : Ledger (front ++ m₁ :: middle) (run early s) := by
    have whole := start.run early
    rwa [List.nil_append, ← past] at whole
  -- the second line is written by a task that has the job in hand, and had not written it before
  obtain ⟨d, seen, case?, rfl⟩ := second
  obtain ⟨⟨c, hc, rfl, writing⟩, -⟩ := (act_effect ledger.sound.keyed a).line seen
  have hand : c.phase.inHand? = some d.id := by simp [writing, ConnectionPhase.inHand?, case?]
  obtain ⟨holds, new⟩ := ledger.hand c hc d.id hand
  have other : w₁ ≠ c.token := by
    rintro rfl
    exact new m₁ (by simp) first
  obtain held | ⟨given, departed⟩ := ledger.lines front m₁ middle w₁ d.id rfl first
  · exact absurd (held.unique ledger.sound.keyed holds) other
  · exact ⟨other, given, departed.phase?⟩

/-- A worker connects, claims a job, and its line is about to be written. -/
def claimLone (worker : WorkerToken) : List Action :=
  [.connect 0 ⟨"Hayabusa", 1⟩ "localhost", .poll 0 worker, .proceed worker true,
    .proceed worker true]

/-- Two workers are handed the lone job, the second after the first has gone. -/
theorem handed_over_after_release_lone :
    let s : Server := ⟨lone, { token := "server", registry := {} }⟩
    let wrote := run (claimLone "w" ++ [.proceed "w" true]) s
    let handover := [.leave "w", .release "w"] ++ claimLone "ww"
    lone.supply.Fresh ∧ Keyed lone.jobs.rows ∧ s.dispatcher.connections = [] ∧
      (moment (run (claimLone "w") s) (.proceed "w" true)).Hands "w" "job" ∧
      (moment (run handover wrote) (.proceed "ww" true)).Hands "ww" "job" ∧
      ∃ m ∈ moments handover wrote, m.GivesBack "w" "job" := by
  intro s wrote handover
  have first : (moment (run (claimLone "w") s) (.proceed "w" true)).Hands "w" "job" :=
    ⟨⟨"job", "w", "Hayabusa", some loneCase, some loneItem⟩, by decide +kernel, rfl, rfl⟩
  have second : (moment (run handover wrote) (.proceed "ww" true)).Hands "ww" "job" :=
    ⟨⟨"job", "ww", "Hayabusa", some loneCase, some loneItem⟩, by decide +kernel, rfl, rfl⟩
  have split :
      moments (claimLone "w" ++ .proceed "w" true :: (handover ++ [.proceed "ww" true])) s =
      moments (claimLone "w") s ++ moment (run (claimLone "w") s) (.proceed "w" true) ::
        (moments handover wrote ++ [moment (run handover wrote) (.proceed "ww" true)]) := by
    simp [moments_append, moments, wrote, run_append, run]
  obtain ⟨-, between⟩ := handed_over_after_release fresh_lone keyed_lone (s := s) rfl
    (claimLone "w" ++ .proceed "w" true :: (handover ++ [.proceed "ww" true]))
  exact ⟨fresh_lone, keyed_lone, rfl, first, second,
    (between _ _ _ _ _ _ _ _ split first second).2.1⟩

end Dispatch
end Casework
