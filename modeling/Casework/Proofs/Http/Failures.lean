/-
# Requests that fail change nothing

A response with a status from 400 on was refused on the way (no such path, no key, the wrong
method, a parameter, query or body that cannot be read) or is the dispatcher's error.  In neither
case has anything been written: what comes before the dispatcher only reads the request, and the
dispatcher's operations leave the tables as they are if they fail (`Store.AllOrNothing`).  `Refused`
says so of an outcome, and that it opened no stream, and `serve_refused` that every failed response
is of that kind.
-/

import Casework.Http.Router
import Casework.Proofs.Hook.Firing

namespace Casework
namespace Http

open Store

/-- The request changed nothing: no stream was opened, no session or task was touched, and the
tables are as they were. -/
structure Refused (s : Server) (o : Outcome) : Prop where
  silent : ∀ token, o.1.body ≠ .stream token
  dispatcher : o.2.2.dispatcher = s.dispatcher
  tables : s.store.SameTables o.2.2.store

variable {s : Server} {α β : Type}

/-- An answer that opens no stream and does nothing changes nothing. -/
theorem refused_response {response : Response} (silent : ∀ token, response.body ≠ .stream token) :
    Refused s (response, [], s) :=
  ⟨silent, rfl, .refl _⟩

/-- An error changes nothing. -/
theorem refused_error (e : ApiError) : Refused s (e.response, [], s) :=
  refused_response fun token => by simp [ApiError.response, jsonResponse]

/-- A parameter that cannot be read changes nothing. -/
theorem refused_badParameter (name : String) : Refused s (Route.badParameter name, [], s) :=
  refused_response fun token => by simp [Route.badParameter]

/-- An operation whose response has the status of a failure has failed. -/
theorem refused_answer {op : StoreM α} {success : α → Response} (all : AllOrNothing op s.store)
    (fine : ∀ a, (success a).status < 400) (failed : 400 ≤ (answer s op success).1.status) :
    Refused s (answer s op success) := by
  rcases run : op s.store with ⟨e | a, store⟩
  · have outcome : answer s op success =
        ((ApiError.core e).response, [], ⟨store, s.dispatcher⟩) := by
      simp [answer, Server.onStore, run, respond]
    rw [outcome]
    refine ⟨fun token => ?_, rfl, all e store run⟩
    simp [ApiError.response, jsonResponse]
  · have outcome : answer s op success = (success a, [], ⟨store, s.dispatcher⟩) := by
      simp [answer, Server.onStore, run, respond]
    rw [outcome] at failed
    have := fine a
    dsimp only at failed
    omega

/-- A look that fails has changed nothing, like one that succeeds. -/
theorem refused_look {op : StoreM α} {success : α → Response} (look : (op s.store).2 = s.store)
    (fine : ∀ a, (success a).status < 400) (failed : 400 ≤ (answer s op success).1.status) :
    Refused s (answer s op success) :=
  refused_answer (allOrNothing_of_unchanged look) fine failed

/-- Reading a body takes the time, which is no change of a table. -/
theorem refused_answerBody [Wire α] {r : Request} {op : α → Except Error (StoreM β)}
    {success : α → β → Response}
    (all : ∀ a op' supply, s.store.supply.Used supply → op a = .ok op' →
      AllOrNothing op' { s.store with supply := supply })
    (fine : ∀ a b, (success a b).status < 400)
    (failed : 400 ≤ (answerBody s r op success).1.status) :
    Refused s (answerBody s r op success) := by
  have used := Supply.used_now s.store.supply
  let later : Server := { s with store := { s.store with supply := s.store.supply.now.2 } }
  have back {o : Outcome} (h : Refused later o) : Refused s o :=
    ⟨h.silent, h.dispatcher, (sameTables_supply s.store _).trans h.tables⟩
  unfold answerBody at failed ⊢
  dsimp only at failed ⊢
  cases read : bodyOf (α := α) s.store.supply.now.1 r with
  | error e => exact back (refused_error e)
  | ok a =>
    rw [read] at failed
    dsimp only at failed ⊢
    cases chosen : op a with
    | error e => exact back (refused_error _)
    | ok op' =>
      rw [chosen] at failed
      exact back (refused_answer (s := later) (all a op' _ used chosen) (fine a) failed)

/-- A stream that was not opened left no session. -/
theorem refused_openStream {now : Nat} {remote : String} {r : Request}
    (failed : 400 ≤ (openStream s now remote r).1.status) :
    Refused s (openStream s now remote r) := by
  unfold openStream at failed ⊢
  cases read : connectParams r.query with
  | error e => exact refused_error e
  | ok params =>
    rw [read] at failed
    dsimp only at failed ⊢
    unfold Server.connect at failed ⊢
    cases declared : Server.declaredModules params with
    | error e => exact refused_error _
    | ok modules =>
      rw [declared] at failed
      simp at failed

/-- **A handler that fails has changed nothing.** -/
theorem dispatch_refused (ready : s.store.Ready) (named : s.dispatcher.registry.WellNamed)
    {now : Nat} {remote : String} {r : Request} {route : Route}
    (failed : 400 ≤ (dispatch s now remote r route).1.status) :
    Refused s (dispatch s now remote r route) := by
  have ok (j : Json) : (jsonResponse 200 j).status < 400 := by
    show 200 < 400
    omega
  have created (j : Json) : (jsonResponse 201 j).status < 400 := by
    show 201 < 400
    omega
  cases route with
  | health =>
    rw [dispatch] at failed ⊢
    exact refused_look rfl (fun _ => ok _) failed
  | jobStream =>
    rw [dispatch] at failed ⊢
    exact refused_openStream failed
  | ack =>
    rw [dispatch] at failed ⊢
    refine refused_answerBody (fun report op' supply _ chosen => ?_) (fun _ _ => ok _) failed
    obtain rfl := Except.ok.inj chosen
    exact allOrNothing_ack report.id report.status report.error _
  | workers =>
    rw [dispatch] at failed
    exact absurd failed (Nat.not_le.2 (ok _))
  | pushJob =>
    rw [dispatch] at failed ⊢
    refine refused_answerBody (fun wish op' supply _ chosen => ?_) (fun _ _ => created _) failed
    obtain rfl := Except.ok.inj chosen
    exact Dispatcher.allOrNothing_pushJob s.dispatcher wish _
  | job id =>
    rw [dispatch] at failed ⊢
    cases value : Route.parameter? id with
    | none => exact refused_badParameter "id"
    | some id =>
      rw [value] at failed
      exact refused_look (getJob_unchanged id s.store) (fun _ => ok _) failed
  | registerEvidence cid =>
    rw [dispatch] at failed ⊢
    cases value : Route.parameter? cid with
    | none => exact refused_badParameter "cid"
    | some cid =>
      rw [value] at failed
      dsimp only at failed ⊢
      unfold registerEvidence at failed ⊢
      refine refused_answerBody (fun e op' supply used chosen => ?_) (fun _ _ => created _) failed
      split at chosen
      · obtain rfl := Except.ok.inj chosen
        exact Dispatcher.allOrNothing_registerEvidence (ready.supply used) named e
      · simp at chosen
  | runnableModules cid eid =>
    rw [dispatch] at failed ⊢
    cases value : Route.parameter? cid with
    | none => exact refused_badParameter "cid"
    | some cid =>
      cases value' : Route.parameter? eid with
      | none => exact refused_badParameter "eid"
      | some eid =>
        rw [value, value'] at failed
        exact refused_look (s.dispatcher.runnableModules_unchanged cid eid s.store)
          (fun _ => ok _) failed
  | evidenceJobs cid eid =>
    rw [dispatch] at failed ⊢
    cases value : Route.parameter? cid with
    | none => exact refused_badParameter "cid"
    | some cid =>
      cases value' : Route.parameter? eid with
      | none => exact refused_badParameter "eid"
      | some eid =>
        rw [value, value'] at failed
        exact refused_look (Dispatcher.evidenceJobs_unchanged cid eid s.store)
          (fun _ => ok _) failed

/-- **A request on a route that fails** has changed nothing. -/
theorem serveRoute_refused (ready : s.store.Ready) (named : s.dispatcher.registry.WellNamed)
    {apiKey? : Option String} {now : Nat} {remote : String} {r : Request} {route : Route}
    (failed : 400 ≤ (serveRoute s apiKey? now remote r route).1.status) :
    Refused s (serveRoute s apiKey? now remote r route) := by
  unfold serveRoute at failed ⊢
  dsimp only at failed ⊢
  split at failed
  next barred =>
    rw [if_pos barred]
    exact refused_response fun token => by simp [ApiError.response, jsonResponse]
  next admitted =>
    rw [if_neg admitted]
    cases allowed : route.allows r.method with
    | true =>
      simp only [allowed, if_true] at failed ⊢
      exact dispatch_refused ready named failed
    | false =>
      simp only [Bool.false_eq_true, if_false]
      exact refused_response fun token => by simp

/-- A refusal stays one without its body. -/
theorem Refused.headless {o : Outcome} (h : Refused s o) : Refused s (headless o) := by
  rcases o with ⟨response, events, s'⟩
  unfold Http.headless
  dsimp only
  split
  next token body => exact absurd body (h.silent token)
  next => exact ⟨fun token => by simp, h.dispatcher, h.tables⟩

/-- An answer without its body keeps its status. -/
theorem headless_status (o : Outcome) : (headless o).1.status = o.1.status := by
  rcases o with ⟨response, events, s'⟩
  unfold headless
  dsimp only
  split <;> rfl

/-- **A request that fails changes nothing.** -/
theorem serve_refused (ready : s.store.Ready) (named : s.dispatcher.registry.WellNamed)
    {apiKey? : Option String} {now : Nat} {remote : String} {r : Request}
    (failed : 400 ≤ (serve s apiKey? now remote r).1.status) :
    Refused s (serve s apiKey? now remote r) := by
  unfold serve at failed ⊢
  cases known : Route.ofPath? r.path with
  | none => exact refused_response fun token => by simp
  | some route =>
    rw [known] at failed
    dsimp only at failed ⊢
    by_cases head : (r.method == "HEAD") = true
    · rw [if_pos head] at failed ⊢
      rw [headless_status] at failed
      exact (serveRoute_refused ready named failed).headless
    · rw [if_neg head] at failed ⊢
      exact serveRoute_refused ready named failed

end Http
end Casework
