/-
# What the server does at once

The operations of a server do several steps without a break: `beat` lets a task work off what its
timers give it, `close` stops a task, gives its jobs back and drops its session.  Each of them is
one schedule of the actions: it leaves the server that some actions leave one after the other, and
the same lines are written (`ByActions`).  What is shown of all runs of actions, such as
`running_jobs_owned` and `handed_over_after_release`, so holds of the operations as they are.

Between two operations every task waits for its timers (`Settled`): a task has three things to do
at most once it has claimed a job, and `workOff` takes three steps (`ConnectionPhase.todo`).
-/

import Casework.Proofs.Dispatch.Handover
import Casework.Proofs.Dispatch.Ownership

namespace Casework
namespace Dispatch

variable {s s' : Server} {c : Connection} {worker : WorkerToken} {now : ℕ}

/-- The lines among some events. -/
def linesOf (events : List StreamEvent) : List (WorkerToken × JobDescriptor) :=
  events.filterMap StreamEvent.line?

/-- What the workers see of a run. -/
def shown (actions : List Action) (s : Server) : List StreamEvent :=
  (moments actions s).flatMap Moment.events

/-- The action is not that a table gets out of reach or comes back. -/
def Action.Ordinary : Action → Prop
  | .reach _ _ => False
  | _ => True

/-- Some actions leave the same server, and the same lines are written. -/
def ByActions (s : Server) (p : List StreamEvent × Server) : Prop :=
  ∃ actions : List Action, (∀ a ∈ actions, a.Ordinary) ∧ run actions s = p.2 ∧
    linesOf (shown actions s) = linesOf p.1

/-- What is seen of two runs, one after the other, is what is seen of the whole. -/
theorem shown_append (actions more : List Action) (s : Server) :
    shown (actions ++ more) s = shown actions s ++ shown more (run actions s) := by
  rw [shown, moments_append, List.flatMap_append]
  rfl

theorem ByActions.refl (s : Server) : ByActions s ([], s) := ⟨[], by simp, rfl, rfl⟩

/-- An action is a run of one. -/
theorem byActions_act (s : Server) {a : Action} (ordinary : a.Ordinary) : ByActions s (act s a) :=
  ⟨[a], by simpa using ordinary, rfl, by simp [shown, moments, moment]⟩

/-- One thing after the other. -/
theorem ByActions.andThen {p : List StreamEvent × Server} (first : ByActions s p)
    (next : Server → List StreamEvent × Server) (rest : ByActions p.2 (next p.2)) :
    ByActions s (Server.andThen p next) := by
  obtain ⟨front, ordinary, hfront, lines⟩ := first
  obtain ⟨back, ordinary', hback, more⟩ := rest
  refine ⟨front ++ back, List.forall_mem_append.2 ⟨ordinary, ordinary'⟩, ?_, ?_⟩
  · rw [run_append, hfront, hback]
    rfl
  · rw [shown_append, hfront, linesOf, List.filterMap_append]
    exact (congrArg₂ (· ++ ·) lines more).trans List.filterMap_append.symm

/-- The end of a stream is no line. -/
theorem ByActions.congr {p q : List StreamEvent × Server} (h : ByActions s p)
    (lines : linesOf q.1 = linesOf p.1) (after : q.2 = p.2) : ByActions s q := by
  obtain ⟨actions, ordinary, same, seen⟩ := h
  exact ⟨actions, ordinary, same.trans after.symm, seen.trans lines.symm⟩

/-- A server stays sound in all that is a run of actions. -/
theorem ByActions.sound {p : List StreamEvent × Server} (h : ByActions s p) (sound : Sound s) :
    Sound p.2 := by
  obtain ⟨actions, -, after, -⟩ := h
  exact after ▸ sound.run actions

/-! ## Where a task stands -/

/-- The connection of a worker is changed, and no other. -/
theorem connection?_updateConnection_eq {f : Connection → Connection}
    (keep : ∀ c, (f c).token = c.token) (s : Server) (token worker : WorkerToken) :
    (s.updateConnection token f).connection? worker =
      (s.connection? worker).map fun c => if worker = token then f c else c := by
  unfold Server.updateConnection Server.connection? changeAll
  rw [List.find?_map]
  have same : ((fun c : Connection => c.token == worker) ∘
      fun c => if c.token == token then f c else c) = fun c => c.token == worker := by
    funext c
    by_cases h : c.token = token <;> simp [h, keep]
  rw [same]
  cases found : s.dispatcher.connections.find? fun c => c.token == worker with
  | none => rfl
  | some c =>
    have own := List.find?_some found
    obtain rfl : c.token = worker := beq_iff_eq.1 own
    simp only [Option.map_some, beq_iff_eq]

/-- The task of a worker is changed as it is told. -/
theorem connection?_updateConnection (f : Connection → Connection)
    (keep : ∀ c, (f c).token = c.token) (s : Server) (worker : WorkerToken) :
    (s.updateConnection worker f).connection? worker = (s.connection? worker).map f := by
  rw [connection?_updateConnection_eq keep]
  simp only [if_true]

/-- A change of one task leaves the others as they are. -/
theorem connection?_updateConnection_of_ne {f : Connection → Connection}
    (keep : ∀ c, (f c).token = c.token) (s : Server) {token worker : WorkerToken}
    (other : worker ≠ token) :
    (s.updateConnection token f).connection? worker = s.connection? worker := by
  rw [connection?_updateConnection_eq keep]
  simp only [other, if_false, Option.map_id']

/-- A task that turns is in its new phase and otherwise the same. -/
theorem connection?_turn (s : Server) (worker : WorkerToken) (phase : ConnectionPhase) :
    (s.turn worker phase).connection? worker =
      (s.connection? worker).map fun c => { c with phase := phase } :=
  connection?_updateConnection (fun c => { c with phase := phase }) (fun _ => rfl) s worker

/-- A task that turns is in its new phase. -/
theorem phase?_turn (s : Server) (worker : WorkerToken) (phase : ConnectionPhase) :
    (s.turn worker phase).phase? worker = (s.phase? worker).map fun _ => phase := by
  rw [Server.phase?, connection?_turn, Server.phase?, Option.map_map, Option.map_map]
  rfl

/-- A task that gives its jobs back has done so. -/
theorem phase?_release (s : Server) (worker : WorkerToken) :
    (s.release worker).2.phase? worker = (s.phase? worker).map fun _ => .released :=
  phase?_turn (s.onStore (Dispatcher.reclaimWorkerJobs worker)).2 worker .released

/-- What is done in one phase is done there. -/
theorem whenIn_eq {phase : ConnectionPhase} {go : Connection → List StreamEvent × Server}
    (h : s.connection? worker = some c) (there : c.phase = phase) :
    whenIn phase worker s go = go c := by
  rw [whenIn, h]
  exact if_pos there

/-- A task that stands in a phase does what an action asks of that phase. -/
theorem whenIn_of_phase? {phase : ConnectionPhase} {p : List StreamEvent × Server}
    (h : s.phase? worker = some phase) : whenIn phase worker s (fun _ => p) = p := by
  obtain ⟨c, found, there⟩ := Option.map_eq_some_iff.1 h
  exact whenIn_eq found there

/-! ## The end of a stream -/

/-- A task that has stopped gives its jobs back and drops its session. -/
theorem byActions_drop (h : s.phase? worker = some .leaving) :
    ByActions s ([], (s.release worker).2.forget worker) := by
  have done : (s.release worker).2.phase? worker = some .released := by
    rw [phase?_release, h]
    rfl
  have release : act s (.release worker) = ([], (s.release worker).2) := whenIn_of_phase? h
  have forget : act (s.release worker).2 (.forget worker) =
      ([], (s.release worker).2.forget worker) := whenIn_of_phase? done
  refine ⟨[.release worker, .forget worker], by simp [Action.Ordinary], ?_, ?_⟩
  · rw [run, release, run, forget]
    rfl
  · simp [shown, moments, moment, release, forget]

/-- To finish a task is a run of actions. -/
theorem byActions_finish (s : Server) (worker : WorkerToken) :
    ByActions s ([], s.finish worker) := by
  unfold Server.finish
  cases found : s.connection? worker with
  | none => exact .refl s
  | some c =>
    by_cases stopped : c.phase = .leaving
    · have there : s.phase? worker = some .leaving := by rw [Server.phase?, found, ← stopped]; rfl
      simpa [stopped] using byActions_drop there
    · simpa [stopped] using ByActions.refl s

/-- The whole end of a stream whose task serves. -/
theorem byActions_close (h : s.phase? worker = some .serving) :
    ByActions s ([], s.close worker) := by
  have stopped : (s.leave worker).phase? worker = some .leaving := by
    rw [Server.leave, phase?_turn, h]
    rfl
  have leave : act s (.leave worker) = ([], s.leave worker) := whenIn_of_phase? h
  have first : ByActions s ([], s.leave worker) := leave ▸ byActions_act s trivial
  exact first.andThen (fun s => ([], (s.release worker).2.forget worker)) (byActions_drop stopped)

/-! ## The beat of a stream -/

/-- To work off what is due is a run of actions. -/
theorem byActions_workOff (s : Server) (worker : WorkerToken) :
    ByActions s (s.workOff worker) := by
  let step (s : Server) := s.proceed worker true
  have steps (s : Server) : ByActions s (step s) :=
    byActions_act s (a := .proceed worker true) trivial
  have three := ((steps s).andThen step (steps _)).andThen step (steps _)
  have whole := three.andThen (fun s => ([], s.finish worker)) (byActions_finish _ worker)
  exact whole.congr (by simp [Server.workOff, Server.andThen, step]) rfl

/-- A task that waits has nothing to go on with. -/
theorem proceed_serving (h : s.phase? worker = some .serving) (written : Bool) :
    s.proceed worker written = ([], s) := by
  unfold Server.phase? at h
  rw [Server.proceed, h]

/-- A line that can be written is written, and the task waits again. -/
theorem proceed_writing {d : JobDescriptor} (h : s.phase? worker = some (.writing d)) :
    s.proceed worker true = ([.line worker d], s.turn worker .serving) := by
  unfold Server.phase? at h
  rw [Server.proceed, h]
  rfl

/-- A task that waits is not finished. -/
theorem finish_serving (h : s.phase? worker = some .serving) : s.finish worker = s := by
  obtain ⟨c, found, serving⟩ := Option.map_eq_some_iff.1 h
  rw [Server.finish, found]
  exact if_neg (by rw [serving]; simp)

/-- A task that is about to write a line writes it, and serves again. -/
theorem workOff_writing {d : JobDescriptor} (h : s.phase? worker = some (.writing d)) :
    s.workOff worker = ([.line worker d], s.turn worker .serving) := by
  have serving : (s.turn worker .serving).phase? worker = some .serving := by
    rw [phase?_turn, h]
    rfl
  simp [Server.workOff, Server.andThen, proceed_writing h, proceed_serving serving,
    finish_serving serving]

/-- After a sign of life the task serves as before. -/
theorem beatKeepAlive_connection? (found : s.connection? c.token = some c)
    (serving : c.phase = .serving) :
    ∃ c', (s.beatKeepAlive now c).2.connection? c.token = some c' ∧ c'.token = c.token ∧
      c'.modules = c.modules ∧ c'.phase = .serving := by
  unfold Server.beatKeepAlive
  split
  · have due : (s.fireKeepAlive now c).connection? c.token = some { c with
        keepAlive := c.keepAlive.advance now, phase := .writing (.keepAlive c.token) } := by
      rw [Server.fireKeepAlive, connection?_turn,
        connection?_updateConnection (fun c => { c with keepAlive := c.keepAlive.advance now })
          fun _ => rfl, found]
      rfl
    have writing : (s.fireKeepAlive now c).phase? c.token =
        some (.writing (.keepAlive c.token)) := congrArg (Option.map Connection.phase) due
    rw [workOff_writing writing, connection?_turn, due]
    exact ⟨_, rfl, rfl, rfl, rfl⟩
  · exact ⟨c, found, rfl, rfl, serving⟩

/-- A beat of the keep-alive timer is a run of actions. -/
theorem byActions_beatKeepAlive (found : s.connection? c.token = some c)
    (serving : c.phase = .serving) : ByActions s (s.beatKeepAlive now c) := by
  unfold Server.beatKeepAlive
  split
  · have fire : act s (.keepAlive now c.token) = ([], s.fireKeepAlive now c) :=
      whenIn_eq found serving
    have first : ByActions s ([], s.fireKeepAlive now c) := fire ▸ byActions_act s trivial
    exact first.andThen (fun s => s.workOff c.token) (byActions_workOff _ c.token)
  · exact .refl s

/-- A beat of the polling timer is a run of actions. -/
theorem byActions_beatPoll {c' : Connection} (found : s.connection? c.token = some c')
    (token : c'.token = c.token) (modules : c'.modules = c.modules)
    (serving : c'.phase = .serving) : ByActions s (s.beatPoll now c) := by
  unfold Server.beatPoll
  split
  · have fire : act s (.poll now c.token) = s.firePoll now c := by
      rw [act, whenIn_eq found serving, Server.firePoll, Server.firePoll, token, modules]
    have first : ByActions s (s.firePoll now c) := fire ▸ byActions_act s trivial
    exact first.andThen (fun s => s.workOff c.token) (byActions_workOff _ c.token)
  · exact .refl s

/-- **A beat is a run of actions.** -/
theorem byActions_beat (found : s.connection? c.token = some c) (serving : c.phase = .serving) :
    ByActions s (s.beat now c) := by
  obtain ⟨c', found', token, modules, serving'⟩ := beatKeepAlive_connection? found serving
  exact (byActions_beatKeepAlive found serving).andThen (fun s => s.beatPoll now c)
    (byActions_beatPoll found' token modules serving')

/-! ## Between two operations -/

/-- Every task waits for its timers. -/
def Settled (s : Server) : Prop := ∀ c ∈ s.dispatcher.connections, c.phase = .serving

/-- Every task waits for its timers but that of a worker, which stands in a phase. -/
structure Settling (worker : WorkerToken) (phase : ConnectionPhase) (s : Server) : Prop where
  others : ∀ c ∈ s.dispatcher.connections, c.token ≠ worker → c.phase = .serving
  own : ∀ c ∈ s.dispatcher.connections, c.token = worker → c.phase = phase

/-- A task in this phase serves or has stopped after so many steps. -/
def Within (n : ℕ) : ConnectionPhase → Prop
  | .serving => True
  | .describing _ none => 3 ≤ n
  | .describing _ (some _) => 2 ≤ n
  | .failing _ _ => 1 ≤ n
  | .writing _ => 1 ≤ n
  | .leaving => True
  | .released => False

/-- When every task waits, any one of them does. -/
theorem Settled.settling (h : Settled s) (worker : WorkerToken) : Settling worker .serving s :=
  ⟨fun c hc _ => h c hc, fun c hc _ => h c hc⟩

/-- A task that is turned stands in the new phase, and the others wait. -/
theorem Settling.turned {phase phase' : ConnectionPhase} (h : Settling worker phase s)
    (turned : Turned worker phase' s.dispatcher.connections s'.dispatcher.connections) :
    Settling worker phase' s' := by
  constructor
  · intro c' hc' other
    obtain ⟨c, hc, token, -, moved⟩ := turned.kept c' hc'
    rw [token] at other
    rw [if_neg other] at moved
    exact moved ▸ h.others c hc other
  · intro c' hc' own
    obtain ⟨c, hc, token, -, moved⟩ := turned.kept c' hc'
    rwa [if_pos (token.symm.trans own)] at moved

/-- A task that the server turns stands in the new phase, and the others wait. -/
theorem Settling.turn {phase : ConnectionPhase} (h : Settling worker phase s)
    (phase' : ConnectionPhase) : Settling worker phase' (s.turn worker phase') :=
  h.turned (turned_turn s worker phase')

/-- A task that waits for an answer goes where it leads, and the others wait. -/
theorem Settling.await {α : Type} {phase : ConnectionPhase} (h : Settling worker phase s)
    (op : StoreM α) (next : Except Error α → ConnectionPhase) :
    Settling worker (next (op s.store).1) (s.await worker op next).2 :=
  h.turned (turned_turn _ worker _)

/-- When the one task waits again, every task does. -/
theorem Settling.settled (h : Settling worker .serving s) : Settled s := by
  intro c hc
  by_cases own : c.token = worker
  · exact h.own c hc own
  · exact h.others c hc own

/-- When the one task is forgotten, every task waits. -/
theorem Settling.forget {phase : ConnectionPhase} (h : Settling worker phase s) :
    Settled (s.forget worker) := by
  intro c hc
  obtain ⟨member, other⟩ := List.mem_filter.1 hc
  exact h.others c member (by simpa using other)

/-- A look-up leaves no more steps than what it finds. -/
theorem within_afterLookUp {α : Type} {n : ℕ} {found : α → ConnectionPhase}
    (h : ∀ a, Within (n + 1) (found a)) (id : JobId) (answer : Except Error α) :
    Within (n + 1) (Server.afterLookUp id found answer) := by
  cases answer with
  | ok a => exact h a
  | error e =>
    cases e with
    | notFound missing => exact Nat.succ_pos n
    | _ => trivial

/-- **Each step brings a task nearer** to its timers or to its end. -/
theorem Settling.proceed {phase : ConnectionPhase} {n : ℕ} (h : Settling worker phase s)
    (within : Within (n + 1) phase) :
    ∃ phase', Settling worker phase' (s.proceed worker true).2 ∧ Within n phase' := by
  cases found : s.connection? worker with
  | none =>
    have nobody : ∀ c ∈ s.dispatcher.connections, c.token ≠ worker := by
      simpa using List.find?_eq_none.1 found
    rw [Server.proceed, found]
    exact ⟨.serving, ⟨h.others, fun c hc own => absurd own (nobody c hc)⟩, trivial⟩
  | some c =>
    obtain ⟨hc, token⟩ := mem_of_connection? found
    obtain rfl := h.own c hc token
    have there : (s.connection? worker).map Connection.phase = some c.phase := by rw [found]; rfl
    rw [Server.proceed, there]
    generalize c.phase = phase at h within
    cases phase with
    | serving => exact ⟨_, h, trivial⟩
    | leaving => exact ⟨_, h, trivial⟩
    | released => exact within.elim
    | failing id missing =>
      refine ⟨_, h.await _ _, ?_⟩
      generalize (Store.ack id .failed (missing ++ " no longer exists") s.store).1 = answer
      cases answer <;> trivial
    | writing d => exact ⟨.serving, h.turn .serving, trivial⟩
    | describing job case? =>
      cases case? with
      | none =>
        have three : 3 ≤ n + 1 := within
        obtain ⟨m, rfl⟩ : ∃ m, n = m + 1 := ⟨n - 1, by omega⟩
        refine ⟨_, h.await _ _, within_afterLookUp (fun case => ?_) _ _⟩
        show 2 ≤ m + 1
        omega
      | some case =>
        have two : 2 ≤ n + 1 := within
        obtain ⟨m, rfl⟩ : ∃ m, n = m + 1 := ⟨n - 1, by omega⟩
        refine ⟨_, h.await _ _, within_afterLookUp (fun item => ?_) _ _⟩
        show 1 ≤ m + 1
        omega

/-- A task that serves or has stopped is gone or serves in the end. -/
theorem Settling.finish {phase : ConnectionPhase} (h : Settling worker phase s)
    (within : Within 0 phase) : Settled (s.finish worker) := by
  unfold Server.finish
  cases found : s.connection? worker with
  | none =>
    have nobody : ∀ c ∈ s.dispatcher.connections, c.token ≠ worker := by
      simpa using List.find?_eq_none.1 found
    exact fun c hc => h.others c hc (nobody c hc)
  | some c =>
    obtain ⟨hc, token⟩ := mem_of_connection? found
    obtain rfl := h.own c hc token
    by_cases stopped : c.phase = .leaving
    · simp only [stopped, if_true]
      exact (h.turned (turned_turn s worker .released)).forget
    · simp only [stopped, if_false]
      have serving : c.phase = .serving := by
        generalize c.phase = phase at within stopped
        cases phase with
        | serving => rfl
        | leaving => exact absurd rfl stopped
        | describing job case? => cases case? <;> exact absurd within (by simp [Within])
        | _ => exact absurd within (by simp [Within])
      exact (serving ▸ h).settled

/-- A task that waits again or stops within three steps is settled when all is worked off. -/
theorem Settling.workOff {phase : ConnectionPhase} (h : Settling worker phase s)
    (within : Within 3 phase) : Settled (s.workOff worker).2 := by
  obtain ⟨p₁, h₁, within₁⟩ := h.proceed within
  obtain ⟨p₂, h₂, within₂⟩ := h₁.proceed within₁
  obtain ⟨p₃, h₃, within₃⟩ := h₂.proceed within₂
  exact h₃.finish within₃

/-- After a claim three steps are left at most. -/
theorem within_afterClaim (answer : Except Error (Option Job)) :
    Within 3 (Server.afterClaim answer) := by
  rcases answer with e | _ | job
  · trivial
  · trivial
  · exact Nat.le_refl 3

/-- **After a beat every task waits for its timers again.** -/
theorem Settled.beat (h : Settled s) (now : ℕ) (c : Connection) : Settled (s.beat now c).2 := by
  have keepAlive : Settled (s.beatKeepAlive now c).2 := by
    unfold Server.beatKeepAlive
    split
    · have writing : Settling c.token (.writing (.keepAlive c.token)) (s.fireKeepAlive now c) :=
        (h.settling c.token).turned (turned_timers
          (g := fun c => { c with keepAlive := c.keepAlive.advance now }) (fun _ => ⟨rfl, rfl⟩) ..)
      exact writing.workOff (by simp [Within])
    · exact h
  change Settled ((s.beatKeepAlive now c).2.beatPoll now c).2
  generalize (s.beatKeepAlive now c).2 = s at keepAlive
  unfold Server.beatPoll
  split
  · have claimed : Settling c.token (Server.afterClaim (Store.claimNext s.dispatcher.token c.token
        c.modules s.store).1) (s.firePoll now c).2 :=
      (keepAlive.settling c.token).turned (turned_timers
        (g := fun c => { c with poll := c.poll.advance now }) (fun _ => ⟨rfl, rfl⟩) ..)
    exact claimed.workOff (within_afterClaim _)
  · exact keepAlive

/-- To close one stream leaves every task waiting. -/
theorem Settled.close (h : Settled s) (worker : WorkerToken) : Settled (s.close worker) := by
  have stopped : Settling worker .leaving (s.leave worker) := (h.settling worker).turn .leaving
  exact (stopped.turned (turned_turn (s.leave worker) worker .released)).forget

/-- To close a stream takes away its task, and no other. -/
theorem tokens_close (s : Server) (worker : WorkerToken) :
    (s.close worker).dispatcher.connections.map Connection.token =
      (s.dispatcher.connections.map Connection.token).filter (· != worker) := by
  have left := (turned_turn s worker .leaving).tokens
  have released := (turned_turn (s.turn worker .leaving) worker .released).tokens
  rw [← left, ← released, List.filter_map]
  rfl

/-! ## The operations -/

/-- When every task waits, so does one that is found. -/
theorem Settled.phase? (h : Settled s) (found : s.connection? worker = some c) :
    s.phase? worker = some .serving := by
  obtain ⟨hc, -⟩ := mem_of_connection? found
  rw [Server.phase?, found, Option.map_some, h c hc]

/-- When every task waits, so does each that is there. -/
theorem Settled.phase?_of_mem (h : Settled s) (hc : c ∈ s.dispatcher.connections) :
    s.phase? c.token = some .serving := by
  cases found : s.connection? c.token with
  | none =>
    have other := List.find?_eq_none.1 found c hc
    simp at other
  | some c' => exact h.phase? found

/-- **A worker that goes away** is a run of actions. -/
theorem byActions_disconnect (h : Settled s) (worker : WorkerToken) :
    ByActions s ([], s.disconnect worker) := by
  unfold Server.disconnect
  cases found : s.connection? worker with
  | none => exact .refl s
  | some c => exact byActions_close (h.phase? found)

/-- A worker that goes away leaves every task waiting. -/
theorem Settled.disconnect (h : Settled s) (worker : WorkerToken) :
    Settled (s.disconnect worker) := by
  unfold Server.disconnect
  cases s.connection? worker with
  | none => exact h
  | some c => exact h.close worker

/-- A stream that opens is a run of actions. -/
theorem byActions_openStream (h : Settled s) (now : ℕ) (worker : WorkerToken) :
    ByActions s (s.openStream now worker) := by
  unfold Server.openStream
  cases found : s.connection? worker with
  | none => exact (ByActions.refl s).congr rfl rfl
  | some c =>
    obtain ⟨hc, rfl⟩ := mem_of_connection? found
    by_cases stopping : s.dispatcher.stopping = true
    · simp only [stopping, if_true]
      exact (byActions_close (h.phase? found)).congr rfl rfl
    · simp only [stopping, if_false, Bool.false_eq_true]
      exact byActions_beat found (h c hc)

/-- A stream that opens leaves every task waiting. -/
theorem Settled.openStream (h : Settled s) (now : ℕ) (worker : WorkerToken) :
    Settled (s.openStream now worker).2 := by
  unfold Server.openStream
  cases s.connection? worker with
  | none => exact h
  | some c =>
    by_cases stopping : s.dispatcher.stopping = true
    · simpa only [stopping, if_true] using h.close worker
    · simpa only [stopping, if_false, Bool.false_eq_true] using h.beat now c

/-- A task that is new waits. -/
theorem Settled.enroll (h : Settled s) (now : ℕ) (modules : List String) (workers : UInt64)
    (remote : String) : Settled (s.enroll now modules workers remote).2 := by
  intro c hc
  obtain old | new := List.mem_append.1 hc
  · exact h c old
  · exact (of_start? (by simpa using new)).2.2

/-- **A worker that connects** is a run of actions. -/
theorem byActions_connect (h : Settled s) (now : ℕ) (params : ConnectParams) (remote : String) :
    ByActions s (s.connect now params remote).2 := by
  unfold Server.connect
  cases declared : Server.declaredModules params with
  | error e => exact .refl s
  | ok modules =>
    have enroll : act s (.connect now params remote) =
        ([], (s.enroll now modules params.workers remote).2) := by rw [act, declared]
    have first : ByActions s ([], (s.enroll now modules params.workers remote).2) :=
      enroll ▸ byActions_act s trivial
    let open_ (s' : Server) :=
      s'.openStream now (s.enroll now modules params.workers remote).1
    have rest := byActions_openStream (h.enroll now modules params.workers remote) now
      (s.enroll now modules params.workers remote).1
    exact first.andThen open_ rest

/-- **A worker that connects** leaves every task waiting. -/
theorem Settled.connect (h : Settled s) (now : ℕ) (params : ConnectParams) (remote : String) :
    Settled (s.connect now params remote).2.2 := by
  unfold Server.connect
  cases Server.declaredModules params with
  | error e => exact h
  | ok modules => exact (h.enroll now modules params.workers remote).openStream now _

/-- Ends the stream of a task. -/
def closing (p : List StreamEvent × Server) (c : Connection) : List StreamEvent × Server :=
  (p.1 ++ [.closed c.token], p.2.close c.token)

/-- The streams of all tasks there are end one after the other. -/
theorem byActions_closing {p : List StreamEvent × Server} {cs : List Connection}
    (done : ByActions s p) (h : Settled p.2)
    (tokens : p.2.dispatcher.connections.map Connection.token = cs.map Connection.token)
    (single : (cs.map Connection.token).Nodup) :
    ByActions s (cs.foldl closing p) ∧ Settled (cs.foldl closing p).2 := by
  induction cs generalizing p with
  | nil => exact ⟨done, h⟩
  | cons c cs ih =>
    rw [List.map_cons] at tokens single
    obtain ⟨new, rest⟩ := List.nodup_cons.1 single
    have member : c.token ∈ p.2.dispatcher.connections.map Connection.token := by
      rw [tokens]
      exact List.mem_cons_self
    obtain ⟨c', hc', token⟩ := List.mem_map.1 member
    have there : p.2.phase? c.token = some .serving := token ▸ h.phase?_of_mem hc'
    have closed : ByActions p.2 ([.closed c.token], p.2.close c.token) :=
      (byActions_close there).congr rfl rfl
    refine ih (done.andThen (fun s => ([.closed c.token], s.close c.token)) closed)
      (h.close c.token) ?_ rest
    change (p.2.close c.token).dispatcher.connections.map Connection.token = _
    rw [tokens_close, tokens, List.filter_cons_of_neg (by simp)]
    refine List.filter_eq_self.2 fun other ho => ?_
    have ne : other ≠ c.token := fun same => new (same ▸ ho)
    simpa using ne

/-- **The shutdown is a run of actions.** -/
theorem byActions_shutdown (sound : Sound s) (h : Settled s) :
    ByActions s s.shutdown ∧ Settled s.shutdown.2 := by
  have stop : ByActions s ([], { s with dispatcher := { s.dispatcher with stopping := true } }) :=
    byActions_act s (a := .shutdown) trivial
  exact byActions_closing stop h rfl sound.single

/-- A client's request shows the workers nothing. -/
theorem shown_requests (statements : List Statement) (s : Server) :
    shown (statements.map .request) s = [] := by
  induction statements generalizing s with
  | nil => rfl
  | cons st statements ih => exact ih _

/-- What statements do is a run of actions. -/
theorem byActions_of_byStatements {α : Type} {op : StoreM α}
    (h : ByStatements s.dispatcher op) : ByActions s ([], (s.onStore op).2) := by
  obtain ⟨statements, after⟩ := h s.store
  refine ⟨statements.map .request, fun a ha => ?_, after, by rw [shown_requests]⟩
  obtain ⟨statement, -, rfl⟩ := List.mem_map.1 ha
  trivial

/-- Something that the server does without a break. -/
inductive Operation where
  | connect (now : ℕ) (params : ConnectParams) (remote : String)
  | beat (now : ℕ) (worker : WorkerToken)
  | disconnect (worker : WorkerToken)
  | shutdown
  | ack (report : AckRequest)
  | pushJob (request : PushJobRequest)
  | registerEvidence (e : Evidence)

/-- What an operation does. -/
def Operation.run (s : Server) : Operation → List StreamEvent × Server
  | .connect now params remote => (s.connect now params remote).2
  | .beat now worker =>
    match s.connection? worker with
    | some c => s.beat now c
    | none => ([], s)
  | .disconnect worker => ([], s.disconnect worker)
  | .shutdown => s.shutdown
  | .ack report => ([], (s.onStore (Dispatcher.ack report)).2)
  | .pushJob request => ([], (s.onStore (s.dispatcher.pushJob request)).2)
  | .registerEvidence e => ([], (s.onStore (s.dispatcher.registerEvidence e)).2)

/-- What some operations do one after the other. -/
def operate : List Operation → Server → List StreamEvent × Server
  | [], s => ([], s)
  | op :: ops, s => Server.andThen (op.run s) (operate ops)

/-- **Every operation is a run of actions,** and after it every task waits for its timers. -/
theorem byActions_operation (sound : Sound s) (h : Settled s) (op : Operation) :
    ByActions s (op.run s) ∧ Settled (op.run s).2 := by
  cases op with
  | connect now params remote =>
    exact ⟨byActions_connect h now params remote, h.connect now params remote⟩
  | beat now worker =>
    rw [Operation.run]
    cases found : s.connection? worker with
    | none => exact ⟨.refl s, h⟩
    | some c =>
      obtain ⟨hc, rfl⟩ := mem_of_connection? found
      exact ⟨byActions_beat found (h c hc), h.beat now c⟩
  | disconnect worker => exact ⟨byActions_disconnect h worker, h.disconnect worker⟩
  | shutdown => exact byActions_shutdown sound h
  | ack report => exact ⟨byActions_of_byStatements (byStatements_ack report), h⟩
  | pushJob request => exact ⟨byActions_of_byStatements (byStatements_pushJob request), h⟩
  | registerEvidence e => exact ⟨byActions_of_byStatements (byStatements_registerEvidence e), h⟩

/-- **So is every sequence of operations.** -/
theorem byActions_operate (sound : Sound s) (h : Settled s) (ops : List Operation) :
    ByActions s (operate ops s) := by
  induction ops generalizing s with
  | nil => exact .refl s
  | cons op ops ih =>
    obtain ⟨first, settled⟩ := byActions_operation sound h op
    exact first.andThen (operate ops) (ih (first.sound sound) settled)

/-- **Whatever a server does after its start, running jobs have owners.** -/
theorem owned_operate {store : Store} (registry : Registry) (rules : RuleEngine)
    (timing : DispatchTiming) (fresh : store.supply.Fresh) (keyed : Keyed store.jobs.rows)
    (there : store.jobs.lost = false)
    (new : ∀ r ∈ store.jobs.rows, r.serverToken ≠ store.supply.next.1) (ops : List Operation) :
    Owned (operate ops (boot store registry rules timing)).2 := by
  have owned := owned_boot registry rules timing fresh keyed there new
  have settled : Settled (boot store registry rules timing) :=
    fun c hc => absurd hc List.not_mem_nil
  obtain ⟨actions, ordinary, after, -⟩ := byActions_operate owned.sound settled ops
  rw [← after]
  refine owned.run fun a ha reach => ?_
  rw [reach] at ha
  exact ordinary _ ha

end Dispatch
end Casework
