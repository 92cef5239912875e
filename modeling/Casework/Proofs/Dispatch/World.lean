/-
# Servers, requests and restarts on one store

A store outlives the servers on it.  A `World` is a store, the servers that run on it, and the
requests that were begun and are not over: a request to push a job or to register evidence looks
something up, and only later writes what it is for, and meanwhile the tasks of the servers, other
requests, further servers and operators' commands act.

| request | looks up | then |
| --- | --- | --- |
| `push` | the item of evidence | queues the job |
| `register` | the case | saves the item, lists the hooks, queues a job for each that fires |

A `Turn` is one statement of one of these, or an event: a server starts and takes back the jobs of
earlier ones, an operator's command opens the store without doing so, a server or a request is
gone, a table gets out of reach or comes back.  What is not possible at the moment does nothing, so
every list of turns is a run, and the runs are all the interleavings.  What a turn comes to is said
once (`World.turn_goes`), for all that is kept from turn to turn.

Of the tasks and the requests of one statement `Dispatch.act` says what they do, save that nothing
is queued or saved here without what the request looks up first (`Action.isBare`).  A request that
nobody interrupts does what the dispatcher's operation does (`World.run_request`).
-/

import Casework.Proofs.Dispatch.Effects

namespace Casework
namespace Dispatch

/-! ## Requests of several statements -/

/-- A request that is made of several statements. -/
inductive Request where
  | push (wish : PushJobRequest)
  | register (e : Evidence)

/-- What is left of a request between two of its statements; `d` is the server that it was made
to, as it was then. -/
inductive Errand where
  /-- The item was found, the job is to be queued. -/
  | push (d : Dispatcher) (wish : PushJobRequest)
  /-- The case was found, the item is to be saved. -/
  | save (d : Dispatcher) (e : Evidence)
  /-- The item was saved, the hooks are to be listed. -/
  | look (d : Dispatcher) (e : Evidence)
  /-- Jobs are to be queued for the item, one for each of these hooks. -/
  | queue (d : Dispatcher) (e : Evidence) (hooks : List Hook)

/-- The part of a request that looks something up. -/
def Request.start (d : Dispatcher) : Request → StoreM Errand
  | .push wish => do
    checkModuleName wish.moduleName
    if !d.registry.contains wish.moduleName then
      throw (.validation ("unknown module " ++ Text.quote wish.moduleName))
    let _ ← Store.getEvidence wish.caseId wish.evidenceId
    return .push d wish
  | .register e => do
    let _ ← Store.getCase e.caseId
    return .save d e

/-- The next statement of a request, and what is left of the request then. -/
def Errand.next : Errand → StoreM (Option Errand)
  | .push d wish => do
    let _ ← Store.enqueue d.token wish.caseId wish.evidenceId wish.moduleName
    return none
  | .save d e => do
    Store.saveEvidence e
    return some (.look d e)
  | .look d e => do
    let hooks ← Store.listHooks
    return some (.queue d e (hooks.filter (Hook.fires d.registry d.rules e)))
  | .queue _ _ [] => return none
  | .queue d e (h :: hooks) => do
    let _ ← Store.enqueue d.token e.caseId e.id h.module
    return some (.queue d e hooks)

/-- What a request begins with changes nothing. -/
theorem start_unchanged (d : Dispatcher) (request : Request) (s : Store) :
    (request.start d s).2 = s := by
  cases request with
  | push wish =>
    refine Store.bind_unchanged (by rw [Store.run_lift]) fun _ => ?_
    split
    · rfl
    · exact Store.bind_unchanged (Store.getEvidence_unchanged _ _ s) fun _ => rfl
  | register e => exact Store.bind_unchanged (Store.getCase_unchanged _ s) fun _ => rfl

/-- **A request that has begun** found what it looked up: the item of a job, whose module has a
well-formed name, or the case of an item. -/
theorem start_cases {d : Dispatcher} {request : Request} {s : Store} {t : Errand}
    (h : (request.start d s).1 = .ok t) :
    (∃ wish e, t = .push d wish ∧ checkModuleName wish.moduleName = .ok () ∧
        (Store.getEvidence wish.caseId wish.evidenceId s).1 = .ok e) ∨
      ∃ e c, t = .save d e ∧ (Store.getCase e.caseId s).1 = .ok c := by
  cases request with
  | push wish =>
    simp only [Request.start, Store.run_bind, Store.run_lift] at h
    cases named : checkModuleName wish.moduleName with
    | error e => simp [named] at h
    | ok u =>
      rw [named] at h
      dsimp only at h
      cases held : d.registry.contains wish.moduleName with
      | false => simp [held] at h
      | true =>
        simp only [held, Bool.not_true, Bool.false_eq_true, if_false, Store.run_bind,
          Store.run_pure] at h
        rcases found : Store.getEvidence wish.caseId wish.evidenceId s with ⟨e | x, s'⟩
        · simp [found] at h
        · rw [found] at h
          obtain rfl := Except.ok.inj h
          exact .inl ⟨wish, x, rfl, named, by rw [found]⟩
  | register e =>
    simp only [Request.start, Store.run_bind, Store.run_pure] at h
    rcases found : Store.getCase e.caseId s with ⟨er | c, s'⟩
    · simp [found] at h
    · rw [found] at h
      obtain rfl := Except.ok.inj h
      exact .inr ⟨e, c, rfl, by rw [found]⟩

/-! ## Turns -/

/-- A store, the servers on it, and the requests that are not over. -/
structure World where
  store : Store
  members : List Dispatcher := []
  errands : List Errand := []

/-- One turn of something that goes on in a world. -/
inductive Turn where
  /-- A server starts with these settings, under a name of its own, and takes jobs back. -/
  | start (settings : Dispatcher)
  /-- The same without taking jobs back, as operators' commands do. -/
  | attach (settings : Dispatcher)
  /-- A server is gone, and its tasks with it. -/
  | crash (i : ℕ)
  /-- A task of a server, or a request of one statement. -/
  | act (i : ℕ) (a : Action)
  /-- A request of several statements is made to a server. -/
  | ask (i : ℕ) (request : Request)
  /-- A request goes on. -/
  | goOn (n : ℕ)
  /-- A request is gone. -/
  | abandon (n : ℕ)
  /-- Someone draws a name. -/
  | draw
  /-- Someone looks at the clock. -/
  | glance
  /-- A table gets out of reach, or comes back. -/
  | reach (table : Store.TableName) (lost : Bool)

/-- A statement that requests make only after they have looked something up. -/
def Action.isBare : Action → Bool
  | .request (.enqueue _ _ _) => true
  | .request (.saveEvidence _) => true
  | _ => false

namespace World

/-- Nothing has happened yet. -/
def empty (supply : Supply) : World := { store := { supply := supply } }

/-- The settings with the next name as the server's token, and the store after the draw. -/
def named (s : Store) (settings : Dispatcher) : Server :=
  ⟨{ s with supply := s.supply.next.2 }, { settings with
      token := s.supply.next.1
      sessions := {}
      connections := []
      stopping := false }⟩

/-- A server joins the world. -/
def join (w : World) (s : Server) : World :=
  { w with store := s.store, members := w.members ++ [s.dispatcher] }

/-- What a turn does. -/
def turn (w : World) : Turn → World
  | .start settings => w.join (named w.store settings).start.2
  | .attach settings => w.join (named w.store settings)
  | .crash i => { w with members := w.members.eraseIdx i }
  | .act i a =>
    match w.members[i]? with
    | some d =>
      if a.isBare then w
      else
        let s := (Dispatch.act ⟨w.store, d⟩ a).2
        { w with store := s.store, members := w.members.set i s.dispatcher }
    | none => w
  | .ask i request =>
    match w.members[i]? with
    | some d =>
      match request.start d w.store with
      | (.ok t, store) => { w with store := store, errands := w.errands ++ [t] }
      | (.error _, store) => { w with store := store }
    | none => w
  | .goOn n =>
    match w.errands[n]? with
    | some t =>
      match t.next w.store with
      | (.ok (some t), store) => { w with store := store, errands := w.errands.set n t }
      | (_, store) => { w with store := store, errands := w.errands.eraseIdx n }
    | none => w
  | .abandon n => { w with errands := w.errands.eraseIdx n }
  | .draw => { w with store := { w.store with supply := w.store.supply.next.2 } }
  | .glance => { w with store := { w.store with supply := w.store.supply.now.2 } }
  | .reach table lost => { w with store := w.store.reach table lost }

/-- The world after some turns. -/
def run (w : World) (turns : List Turn) : World := turns.foldl turn w

/-- Two runs, one after the other, are one. -/
theorem run_append (w : World) (turns more : List Turn) :
    w.run (turns ++ more) = (w.run turns).run more := List.foldl_append ..

/-- **What a turn keeps, a run keeps.** -/
theorem run_induction {P : World → Prop} {Q : Turn → Prop}
    (step : ∀ w t, Q t → P w → P (w.turn t)) {turns : List Turn} {w : World}
    (fine : ∀ t ∈ turns, Q t) (start : P w) : P (w.run turns) := by
  induction turns generalizing w with
  | nil => exact start
  | cons t turns ih =>
    obtain ⟨first, rest⟩ := List.forall_mem_cons.1 fine
    exact ih rest (step w t first start)

/-- What a turn comes to. -/
inductive Goes (w : World) : Turn → World → Prop where
  | aside (t : Turn) {supply : Supply} {members : List Dispatcher} {errands : List Errand}
      (used : w.store.supply.Used supply) (servers : ∀ d ∈ members, d ∈ w.members)
      (requests : ∀ t ∈ errands, t ∈ w.errands) :
      Goes w t ⟨{ w.store with supply := supply }, members, errands⟩
  | started (settings : Dispatcher) :
      Goes w (.start settings) (w.join (named w.store settings).start.2)
  | attached (settings : Dispatcher) : Goes w (.attach settings) (w.join (named w.store settings))
  | acted (i : ℕ) {a : Action} {d : Dispatcher} {s : Server} {members : List Dispatcher}
      (member : d ∈ w.members) (bare : a.isBare = false)
      (after : (Dispatch.act ⟨w.store, d⟩ a).2 = s)
      (servers : ∀ d' ∈ members, d' ∈ w.members ∨ d' = s.dispatcher) :
      Goes w (.act i a) ⟨s.store, members, w.errands⟩
  | begun (i : ℕ) {request : Request} {d : Dispatcher} {t : Errand} (member : d ∈ w.members)
      (started : (request.start d w.store).1 = .ok t) :
      Goes w (.ask i request) ⟨w.store, w.members, w.errands ++ [t]⟩
  | wentOn (n : ℕ) {t : Errand} {answer : Except Error (Option Errand)} {store : Store}
      {errands : List Errand} (member : t ∈ w.errands) (next : t.next w.store = (answer, store))
      (requests : ∀ t' ∈ errands, t' ∈ w.errands ∨ answer = .ok (some t')) :
      Goes w (.goOn n) ⟨store, w.members, errands⟩
  | reached (table : Store.TableName) (lost : Bool) :
      Goes w (.reach table lost) ⟨w.store.reach table lost, w.members, w.errands⟩

/-- Any turn may come to nothing. -/
theorem goes_idle (w : World) (t : Turn) : w.Goes t w :=
  .aside t (.refl _) (fun _ hd => hd) fun _ ht => ht

/-- **Every turn comes to one of these.** -/
theorem turn_goes (w : World) (t : Turn) : w.Goes t (w.turn t) := by
  cases t with
  | start settings => exact .started settings
  | attach settings => exact .attached settings
  | crash i =>
    exact .aside _ (.refl _) (fun _ hd => List.mem_of_mem_eraseIdx hd) fun _ ht => ht
  | act i a =>
    rw [turn]
    cases found : w.members[i]? with
    | none => exact goes_idle w _
    | some d =>
      cases bare : a.isBare with
      | true => exact goes_idle w _
      | false =>
        have member : d ∈ w.members := List.mem_of_getElem? found
        exact .acted i member bare rfl fun _ hd => List.mem_or_eq_of_mem_set hd
  | ask i request =>
    rw [turn]
    cases found : w.members[i]? with
    | none => exact goes_idle w _
    | some d =>
      have same := start_unchanged d request w.store
      dsimp only
      rcases started : request.start d w.store with ⟨e | t, store⟩ <;> rw [started] at same <;>
        obtain rfl : store = w.store := same
      · exact goes_idle w _
      · exact .begun i (List.mem_of_getElem? found) (by rw [started])
  | goOn n =>
    rw [turn]
    cases found : w.errands[n]? with
    | none => exact goes_idle w _
    | some t =>
      have member : t ∈ w.errands := List.mem_of_getElem? found
      have rest (answer : Except Error (Option Errand)) : ∀ t' ∈ w.errands.eraseIdx n,
          t' ∈ w.errands ∨ answer = .ok (some t') :=
        fun _ ht => .inl (List.mem_of_mem_eraseIdx ht)
      dsimp only
      rcases next : t.next w.store with ⟨e | _ | t', store⟩
      · exact .wentOn n member next (rest _)
      · exact .wentOn n member next (rest _)
      · refine .wentOn n member next fun t'' ht => ?_
        obtain old | rfl := List.mem_or_eq_of_mem_set ht
        · exact .inl old
        · exact .inr rfl
  | abandon n =>
    exact .aside _ (.refl _) (fun _ hd => hd) fun _ ht => List.mem_of_mem_eraseIdx ht
  | draw => exact .aside _ (Supply.used_next _) (fun _ hd => hd) fun _ ht => ht
  | glance => exact .aside _ (Supply.used_now _) (fun _ hd => hd) fun _ ht => ht
  | reach table lost => exact .reached table lost

end World

/-! ## Requests that nobody interrupts -/

/-- All the statements of a request, as the dispatcher makes them. -/
def Request.whole (d : Dispatcher) : Request → StoreM Unit
  | .push wish => (fun _ => ()) <$> d.pushJob wish
  | .register e => (fun _ => ()) <$> d.registerEvidence e

/-- All the statements that are left of a request. -/
def Errand.rest : Errand → StoreM Unit
  | .push d wish =>
    (fun _ => ()) <$> Store.enqueue d.token wish.caseId wish.evidenceId wish.moduleName
  | .save d e => do
    Store.saveEvidence e
    (fun _ => ()) <$> Hook.onEvidenceAdded d.token d.registry d.rules e
  | .look d e => (fun _ => ()) <$> Hook.onEvidenceAdded d.token d.registry d.rules e
  | .queue d e hooks => (fun _ => ()) <$> Hook.enqueueAll d.token e hooks

/-- A request is its first part and what is left of it then. -/
theorem Request.whole_eq (d : Dispatcher) (request : Request) (s : Store) :
    (request.whole d s).2 =
      match request.start d s with
      | (.ok t, s') => (t.rest s').2
      | (.error _, s') => s' := by
  cases request with
  | push wish =>
    simp only [Request.whole, Request.start, Dispatcher.pushJob, Store.run_map, Store.run_bind,
      Store.run_lift]
    cases checkModuleName wish.moduleName with
    | error e => rfl
    | ok u =>
      dsimp only
      cases d.registry.contains wish.moduleName with
      | false => rfl
      | true =>
        simp only [Bool.not_true, Bool.false_eq_true, if_false, Store.run_bind, Store.run_pure]
        rcases Store.getEvidence wish.caseId wish.evidenceId s with ⟨e | x, s'⟩
        · rfl
        · simp only [Errand.rest, Store.run_map]
  | register e =>
    simp only [Request.whole, Request.start, Dispatcher.registerEvidence, Store.run_map,
      Store.run_bind]
    rcases Store.getCase e.caseId s with ⟨er | x, s'⟩
    · rfl
    · simp only [Store.run_pure, Errand.rest, Store.run_bind, Store.run_map]
      rcases Store.saveEvidence e s' with ⟨er | u, s''⟩ <;> rfl

namespace World

variable {w : World} {es : List Errand}

/-- One statement of the request at the end of the list. -/
theorem turn_goOn (t : Errand) (errands : w.errands = es ++ [t]) :
    w.turn (.goOn es.length) =
      match t.next w.store with
      | (.ok (some t), store) => { w with store := store, errands := es ++ [t] }
      | (_, store) => { w with store := store, errands := es } := by
  have there : w.errands[es.length]? = some t := by simp [errands]
  rw [turn, there]
  dsimp only
  rcases t.next w.store with ⟨e | _ | t', store⟩ <;> simp [errands, List.eraseIdx_append]

/-- A request goes on until nothing is left of it, and leaves `w'`. -/
def Finishes (n : ℕ) (w w' : World) : Prop := ∃ k, w.run (List.replicate k (.goOn n)) = w'

/-- An errand that comes to its end after a turn comes to its end. -/
theorem Finishes.step {n : ℕ} {w w' w'' : World} (first : w.turn (.goOn n) = w')
    (later : Finishes n w' w'') : Finishes n w w'' := by
  obtain ⟨k, rest⟩ := later
  refine ⟨k + 1, ?_⟩
  rw [List.replicate_succ, run, List.foldl_cons, first]
  exact rest

/-- A turn may be the last of an errand. -/
theorem Finishes.last {n : ℕ} {w w' : World} (h : w.turn (.goOn n) = w') : Finishes n w w' :=
  .step h ⟨0, rfl⟩

/-- To queue the jobs of hooks finishes when all are queued. -/
theorem finishes_queue (d : Dispatcher) (e : Evidence) (hooks : List Hook) (w : World)
    (errands : w.errands = es ++ [.queue d e hooks]) :
    Finishes es.length w
      { w with store := (Hook.enqueueAll d.token e hooks w.store).2, errands := es } := by
  induction hooks generalizing w with
  | nil => exact .last (turn_goOn _ errands)
  | cons h hooks ih =>
    have step := turn_goOn _ errands
    rw [Errand.next, Store.run_bind] at step
    rw [Hook.enqueueAll, Store.run_bind]
    rcases queued : Store.enqueue d.token e.caseId e.id h.module w.store with ⟨er | job, store⟩
    · rw [queued] at step
      exact .last step
    · simp only [queued, Store.run_pure] at step
      refine .step step ?_
      have later := ih { w with store := store, errands := es ++ [.queue d e hooks] } rfl
      dsimp only at later ⊢
      rw [Store.run_bind]
      rcases queuedAll : Hook.enqueueAll d.token e hooks store with ⟨er | jobs, store'⟩
      · rw [queuedAll] at later
        exact later
      · rw [queuedAll] at later
        simp only [Store.run_pure]
        exact later

/-- To look for hooks finishes when those that fire have queued their jobs. -/
theorem finishes_look (d : Dispatcher) (e : Evidence) (w : World)
    (errands : w.errands = es ++ [.look d e]) :
    Finishes es.length w { w with
      store := (Hook.onEvidenceAdded d.token d.registry d.rules e w.store).2, errands := es } := by
  have step := turn_goOn _ errands
  rw [Errand.next, Store.run_bind] at step
  rw [Hook.onEvidenceAdded, Store.run_bind]
  rcases listed : Store.listHooks w.store with ⟨er | hooks, store⟩
  · rw [listed] at step
    exact .last step
  · simp only [listed, Store.run_pure] at step
    refine .step step ?_
    exact finishes_queue d e _ { w with store := store, errands := es ++ [.queue d e _] } rfl

/-- **A request that goes on without interruption** makes all the statements that are left. -/
theorem finishes_rest (t : Errand) (w : World) (errands : w.errands = es ++ [t]) :
    Finishes es.length w { w with store := (t.rest w.store).2, errands := es } := by
  cases t with
  | push d wish =>
    have step := turn_goOn _ errands
    rw [Errand.next, Store.run_bind] at step
    rw [Errand.rest, Store.run_map]
    rcases queued : Store.enqueue d.token wish.caseId wish.evidenceId wish.moduleName w.store
      with ⟨er | job, store⟩ <;> simp only [queued, Store.run_pure] at step <;> exact .last step
  | save d e =>
    have step := turn_goOn _ errands
    rw [Errand.next, Store.run_bind] at step
    rw [Errand.rest, Store.run_bind]
    rcases saved : Store.saveEvidence e w.store with ⟨er | u, store⟩
    · rw [saved] at step
      exact .last step
    · simp only [saved, Store.run_pure] at step
      refine .step step ?_
      have later := finishes_look d e { w with store := store, errands := es ++ [.look d e] } rfl
      dsimp only at later ⊢
      rw [Store.run_map]
      exact later
  | look d e =>
    rw [Errand.rest, Store.run_map]
    exact finishes_look d e w errands
  | queue d e hooks =>
    rw [Errand.rest, Store.run_map]
    exact finishes_queue d e hooks w errands

/-- **A request that nobody interrupts** leaves what the dispatcher's operation leaves. -/
theorem run_request {d : Dispatcher} {i : ℕ} (member : w.members[i]? = some d)
    (request : Request) :
    ∃ k, w.run (.ask i request :: List.replicate k (.goOn w.errands.length)) =
      { w with store := (request.whole d w.store).2 } := by
  rw [Request.whole_eq]
  have ask : w.turn (.ask i request) =
      match request.start d w.store with
      | (.ok t, store) => { w with store := store, errands := w.errands ++ [t] }
      | (.error _, store) => { w with store := store } := by
    rw [turn, member]
  rcases started : request.start d w.store with ⟨e | t, store⟩
  · rw [started] at ask
    exact ⟨0, ask⟩
  · rw [started] at ask
    obtain ⟨k, rest⟩ := finishes_rest t { w with
      store := store, errands := w.errands ++ [t] } rfl
    refine ⟨k, ?_⟩
    rw [run, List.foldl_cons, ask]
    exact rest

/-- Pushing a job is such a request. -/
theorem whole_push (d : Dispatcher) (wish : PushJobRequest) (s : Store) :
    ((Request.push wish).whole d s).2 = (d.pushJob wish s).2 := by
  rw [Request.whole, Store.run_map]

/-- Registering evidence is such a request. -/
theorem whole_register (d : Dispatcher) (e : Evidence) (s : Store) :
    ((Request.register e).whole d s).2 = (d.registerEvidence e s).2 := by
  rw [Request.whole, Store.run_map]

end World
end Dispatch
end Casework
