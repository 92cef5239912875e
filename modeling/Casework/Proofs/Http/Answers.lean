/-
# What is answered and what is stored

A request that registers evidence is answered with the record as it was read from the body, with
what the body leaves out filled in.  The store takes the record over column by column, and an item
that is there already keeps its case and the time of its arrival.  The two differ in one place:

| of the item | in the answer | in the store, and on later lines |
| --- | --- | --- |
| case | the record's | the same, for a record of another case is refused |
| time of arrival | the record's | the one it arrived with first |
| all else | the record's | the same |

So the answer is what was stored just when the item is new or the record has the time that is on
record (`answer_is_stored_iff`).  A body that leaves the time out has the present one, which an item
that is registered again does not.
-/

import Casework.Proofs.Dispatch.Lines
import Casework.Proofs.Http.Failures
import Casework.Proofs.Http.Registration
import Casework.Proofs.Job.Records

namespace Casework

/-- Records with the same JSON are the same. -/
theorem Evidence.eq_of_toJson {x y : Evidence} (same : Wire.toJson x = Wire.toJson y) : x = y := by
  have trips := Evidence.plain.roundTrips Evidence.ofDatum?_toDatum
  have read := trips.back .epoch x
  rw [Wire.render, same] at read
  exact Except.ok.inj (read.symm.trans (trips.back .epoch y))

/-! ## Registering a record -/

section Registering

variable {s s' : Store} {d : Dispatcher} {e old : Evidence} {jobs : List Job}

/-- Hooks that fire leave the items as they are. -/
theorem evidences_enqueueAll (server : InstanceToken) (e : Evidence) (hooks : List Hook)
    (s : Store) : (Hook.enqueueAll server e hooks s).2.evidences = s.evidences := by
  induction hooks generalizing s with
  | nil => rfl
  | cons h hooks ih =>
    have first := Dispatch.evidences_enqueue server e.caseId e.id h.module s
    rw [Hook.enqueueAll, Store.run_bind]
    rcases queued : Store.enqueue server e.caseId e.id h.module s with ⟨er | job, s₁⟩ <;>
      rw [queued] at first
    · exact first
    · have rest := (ih s₁).trans first
      dsimp only
      rw [Store.run_bind]
      rcases others : Hook.enqueueAll server e hooks s₁ with ⟨er | jobs, s₂⟩ <;>
        rw [others] at rest <;> exact rest

/-- Hooks that fire change no items. -/
theorem evidences_onEvidenceAdded (server : InstanceToken) (registry : Registry)
    (rules : RuleEngine) (e : Evidence) (s : Store) :
    (Hook.onEvidenceAdded server registry rules e s).2.evidences = s.evidences := by
  have same := Store.listHooks_unchanged s
  rw [Hook.onEvidenceAdded, Store.run_bind]
  rcases listed : Store.listHooks s with ⟨er | hooks, s₁⟩ <;> rw [listed] at same <;>
    obtain rfl : s₁ = s := same
  · rfl
  · exact evidences_enqueueAll server e _ s₁

/-- The item that a record leaves: what was there under its id keeps its time of arrival. -/
def Store.merged (s : Store) (e : Evidence) : Evidence :=
  ((s.evidences.rows.find? fun x => x.id == e.id).map (Store.mergeEvidence e)).getD e

/-- A record that is saved leaves its item in reach, in the record's case. -/
theorem merged_of_saveEvidence {u : Unit} (run : Store.saveEvidence e s = (.ok u, s')) :
    s'.evidences.lost = false ∧ s.merged e ∈ s'.evidences.rows ∧
      ∀ x ∈ s.evidences.rows, x.id = e.id → x.caseId = e.caseId := by
  have there : s.evidences.lost = false := by
    obtain ⟨er, refused⟩ | ⟨there, -⟩ := Store.saveEvidence_cases e s
    · cases congrArg Prod.fst (refused.symm.trans run)
    · exact there
  rw [Store.run_saveEvidence there] at run
  by_cases elsewhere : ∃ x ∈ s.evidences.rows, x.id = e.id ∧ x.caseId ≠ e.caseId
  · rw [if_pos elsewhere] at run
    cases congrArg Prod.fst run
  · rw [if_neg elsewhere] at run
    obtain ⟨-, rfl⟩ := Prod.mk.inj run
    refine ⟨rfl, List.mem_of_find?_eq_some (p := fun r => r.id == e.id) ?_, fun x hx same => ?_⟩
    · rw [Store.find?_upsert, if_pos rfl]
      rfl
    · by_contra other
      exact elsewhere ⟨x, hx, same, other⟩

/-- **A record that is registered** does so too, whatever hooks fire. -/
theorem merged_of_registerEvidence (run : d.registerEvidence e s = (.ok jobs, s')) :
    s'.evidences.lost = false ∧ s.merged e ∈ s'.evidences.rows ∧
      ∀ x ∈ s.evidences.rows, x.id = e.id → x.caseId = e.caseId := by
  have same := Store.getCase_unchanged e.caseId s
  simp only [Dispatcher.registerEvidence, Store.run_bind] at run
  rcases found : Store.getCase e.caseId s with ⟨er | c, s₀⟩ <;> rw [found] at run same
  · cases congrArg Prod.fst run
  obtain rfl : s₀ = s := same
  dsimp only at run
  rcases saved : Store.saveEvidence e s₀ with ⟨er | u, s₁⟩ <;> rw [saved] at run
  · cases congrArg Prod.fst run
  dsimp only at run
  have table := evidences_onEvidenceAdded d.token d.registry d.rules e s₁
  rw [run] at table
  rw [table]
  exact merged_of_saveEvidence saved

/-- The item has the record's id, and if none of its id is in another case it is the record save for
the time of arrival. -/
theorem merged_eq (own : ∀ x ∈ s.evidences.rows, x.id = e.id → x.caseId = e.caseId) :
    s.merged e = { e with addedAt := (s.merged e).addedAt } := by
  unfold Store.merged
  cases found : s.evidences.rows.find? fun x => x.id == e.id with
  | none => rfl
  | some x =>
    obtain ⟨member, same⟩ := Store.of_find?_id found
    simp [Store.mergeEvidence, own x member same]

/-- The time is the one that was there, if there was one. -/
theorem addedAt_merged (single : (s.evidences.rows.map Evidence.id).Nodup)
    (held : old ∈ s.evidences.rows) (same : old.id = e.id) :
    (s.merged e).addedAt = old.addedAt := by
  unfold Store.merged
  cases found : s.evidences.rows.find? fun x => x.id == e.id with
  | none => simpa [same] using List.find?_eq_none.1 found old held
  | some x =>
    obtain ⟨member, same'⟩ := Store.of_find?_id found
    rw [List.inj_on_of_nodup_map single member held (same'.trans same.symm)]
    rfl

/-- The item is the record just when every item of its id had the record's time. -/
theorem merged_eq_self_iff (single : (s.evidences.rows.map Evidence.id).Nodup)
    (own : ∀ x ∈ s.evidences.rows, x.id = e.id → x.caseId = e.caseId) :
    s.merged e = e ↔ ∀ x ∈ s.evidences.rows, x.id = e.id → x.addedAt = e.addedAt := by
  constructor
  · intro whole x held same
    rw [← addedAt_merged single held same, whole]
  · intro times
    unfold Store.merged
    cases found : s.evidences.rows.find? fun x => x.id == e.id with
    | none => rfl
    | some x =>
      obtain ⟨member, same⟩ := Store.of_find?_id found
      simp [Store.mergeEvidence, own x member same, times x member same]

end Registering

namespace Http

open Dispatch

/-! ## The answer -/

variable {s : Server} {r : Request} {α β : Type}

/-- Every error has an error status. -/
theorem le_status_response (e : ApiError) : 400 ≤ e.response.status := by
  cases e with
  | body fault => cases fault <;> exact Nat.le_of_ble_eq_true rfl
  | core e => cases e <;> exact Nat.le_of_ble_eq_true rfl
  | _ => exact Nat.le_of_ble_eq_true rfl

/-- An answer that is no failure is that to a body that was read and an operation that went well. -/
theorem answerBody_eq [Wire α] {op : α → Except Error (StoreM β)} {success : α → β → Response}
    (fine : (answerBody s r op success).1.status < 400) :
    ∃ a op' b store, bodyOf s.store.supply.now.1 r = .ok a ∧ op a = .ok op' ∧
      op' { s.store with supply := s.store.supply.now.2 } = (.ok b, store) ∧
      answerBody s r op success = (success a b, [], ⟨store, s.dispatcher⟩) := by
  unfold answerBody at fine ⊢
  dsimp only at fine ⊢
  cases read : bodyOf (α := α) s.store.supply.now.1 r with
  | error e =>
    rw [read] at fine
    exact absurd fine (le_status_response e).not_gt
  | ok a =>
    rw [read] at fine
    dsimp only at fine ⊢
    cases chosen : op a with
    | error e =>
      rw [chosen] at fine
      exact absurd fine (le_status_response (.core e)).not_gt
    | ok op' =>
      rw [chosen] at fine
      dsimp only [answer, Server.onStore] at fine ⊢
      rcases run : op' { s.store with supply := s.store.supply.now.2 } with ⟨e | b, store⟩
      · rw [run] at fine
        exact absurd fine (le_status_response (.core e)).not_gt
      · exact ⟨a, op', b, store, rfl, chosen, run, rfl⟩

/-- An answer that is no failure, on a route for POST, is the handler's. -/
theorem serve_eq_dispatch {apiKey? : Option String} {now : ℕ} {remote : String} {route : Route}
    (found : Route.ofPath? r.path = some route) (isPost : route.isPost = true)
    (fine : (serve s apiKey? now remote r).1.status < 400) :
    serve s apiKey? now remote r = dispatch s now remote r route := by
  rw [serve, found] at fine ⊢
  dsimp only at fine ⊢
  have handled : (serveRoute s apiKey? now remote r route).1.status < 400 := by
    split at fine
    · rwa [headless_status] at fine
    · exact fine
  have admitted : (route.isProtected && !isAuthorized apiKey? r) = false := by
    cases barred : route.isProtected && !isAuthorized apiKey? r with
    | false => rfl
    | true => simp [serveRoute, barred, ApiError.response, ApiError.parts, jsonResponse] at handled
  have allowed : route.allows r.method = true := by
    cases other : route.allows r.method with
    | true => rfl
    | false => simp [serveRoute, admitted, other] at handled
  have post : r.method = "POST" := by simpa [Route.allows, isPost] using allowed
  have not_head : (r.method == "HEAD") = false := by
    rw [post]
    decide
  rw [not_head, if_neg Bool.false_ne_true]
  simp [serveRoute, admitted, allowed]

/-- The answer to a record that was registered. -/
def created (e : Evidence) (jobs : List Job) : Response :=
  jsonResponse 201 (.object [("evidence", Wire.toJson e), ("jobs", listJson jobs)])

/-- **What is answered with 201** was read as a record of the case of the path, and registered; the
answer shows the record. -/
theorem serve_created {apiKey? : Option String} {now : ℕ} {remote : String} {cid : List Char}
    (route : Route.ofPath? r.path = some (.registerEvidence cid))
    (status : (serve s apiKey? now remote r).1.status = 201) :
    ∃ e jobs store, bodyOf s.store.supply.now.1 r = .ok e ∧ Route.parameter? cid = some e.caseId ∧
      s.dispatcher.registerEvidence e { s.store with supply := s.store.supply.now.2 } =
        (.ok jobs, store) ∧
      serve s apiKey? now remote r = (created e jobs, [], ⟨store, s.dispatcher⟩) := by
  have fine : (serve s apiKey? now remote r).1.status < 400 := by
    rw [status]
    decide
  have handled := serve_eq_dispatch route rfl fine
  rw [handled, dispatch] at fine ⊢
  cases read : Route.parameter? cid with
  | none => simp [read, Route.badParameter] at fine
  | some caseId =>
    rw [read] at fine
    obtain ⟨e, op, jobs, store, body, chosen, run, answered⟩ := answerBody_eq fine
    split at chosen
    next own =>
      obtain rfl := Except.ok.inj chosen
      exact ⟨e, jobs, store, body, congrArg some own.symm, run, answered⟩
    next => cases chosen

/-- Registering evidence, after a look at the clock, is a run of turns. -/
theorem linked_registerEvidence {w : World} (linked : w.Linked) {d : Dispatcher}
    (member : d ∈ w.members) (e : Evidence) : World.Linked { w with
      store := (d.registerEvidence e { w.store with supply := w.store.supply.now.2 }).2 } := by
  obtain ⟨i, found⟩ := List.mem_iff_getElem?.1 member
  have glanced : w.turn .glance = { w with
      store := { w.store with supply := w.store.supply.now.2 } } := rfl
  obtain ⟨k, whole⟩ := World.run_request (w := w.turn .glance) found (.register e)
  rw [World.whole_register] at whole
  have later := ((linked.turn .glance).2.run
    (.ask i (.register e) :: List.replicate k (.goOn w.errands.length))).2
  rw [glanced] at whole later
  rw [whole] at later
  exact later

/-! ## The main statement -/

/-- **The answer is what was stored,** save for the time of arrival.  Servers, workers, clients and
operators do what they like on a store that was empty, with restarts and tables out of reach; then a
server answers 201 to a request on the route that registers evidence.  The answer shows the record
that was read from the body, of the case of the path, and:

* the server is as it was, and the item found right after is the record, except that the time is
  that of an item of its id that was there before;
* so the answer shows what was stored just when every such item had the record's time, and always if
  there was none;
* the item stays what was found until a record is saved under its id again, and every line on a
  stream shows it so, other than those that a task had ready when the answer was given. -/
theorem answer_is_stored_iff (supply : Supply) (turns : List Turn) {d : Dispatcher}
    (member : d ∈ ((World.empty supply).run turns).members) {r : Request} {cid : List Char}
    (route : Route.ofPath? r.path = some (.registerEvidence cid)) {apiKey? : Option String}
    {now : ℕ} {remote : String}
    (status : (serve ⟨((World.empty supply).run turns).store, d⟩ apiKey? now remote r).1.status =
      201) :
    let w := (World.empty supply).run turns
    let o := serve ⟨w.store, d⟩ apiKey? now remote r
    let w' : World := { w with store := o.2.2.store }
    ∃ (e stored : Evidence) (jobs : List Job),
      bodyOf w.store.supply.now.1 r = .ok e ∧ Route.parameter? cid = some e.caseId ∧
      o.1.body = .json (.object [("evidence", Wire.toJson e), ("jobs", listJson jobs)]) ∧
      o.2.2.dispatcher = d ∧
      Store.getEvidence e.caseId e.id w'.store = (.ok stored, w'.store) ∧
      stored = { e with addedAt := stored.addedAt } ∧
      (∀ x ∈ w.store.evidences.rows, x.id = e.id → stored.addedAt = x.addedAt) ∧
      (Wire.toJson stored = Wire.toJson e ↔
        ∀ x ∈ w.store.evidences.rows, x.id = e.id → x.addedAt = e.addedAt) ∧
      ∀ more, w'.Spares e.id more →
        ((w'.run more).store.evidences.lost = false →
          Store.getEvidence e.caseId e.id (w'.run more).store =
            (.ok stored, (w'.run more).store)) ∧
        ∀ d' ∈ (w'.run more).members, ∀ a worker line,
          .line worker line ∈ (act ⟨(w'.run more).store, d'⟩ a).1 →
          ∀ x, line.evidence? = some x → x.id = e.id →
            x = stored ∨ ∃ d ∈ w.members, ∃ c ∈ d.connections, c.phase = .writing line := by
  intro w o w'
  have linked : w.Linked := ((World.linked_empty supply).run turns).2
  obtain ⟨e, jobs, store, read, case, run, outcome⟩ := serve_created route status
  have answered : o = (created e jobs, [], ⟨store, d⟩) := outcome
  have after : w'.store = store := congrArg (fun o : Outcome => o.2.2.store) answered
  obtain ⟨there, held, own⟩ := merged_of_registerEvidence run
  rw [← after] at there held
  let stored := Store.merged { w.store with supply := w.store.supply.now.2 } e
  have whole : stored = { e with addedAt := stored.addedAt } := merged_eq own
  have id : stored.id = e.id := by rw [whole]
  have caseId : stored.caseId = e.caseId := by rw [whole]
  have linked' : w'.Linked := by
    have later := linked_registerEvidence linked member e
    rwa [run, ← after] at later
  have keeps := linked'.keeps held
  refine ⟨e, stored, jobs, read, case, by rw [answered]; rfl, by rw [answered], ?_, whole,
    fun x hx same => addedAt_merged linked.store.single hx same, ?_, fun more spared => ?_⟩
  · rw [← caseId, ← id]
    exact keeps.getEvidence there
  · rw [← merged_eq_self_iff linked.store.single own]
    exact ⟨Evidence.eq_of_toJson, congrArg Wire.toJson⟩
  · rw [← id] at spared
    have later := keeps.run spared
    refine ⟨fun reached => ?_, fun d' hd' a worker line seen x shown same => ?_⟩
    · rw [← caseId, ← id]
      exact later.getEvidence reached
    · exact later.line hd' seen shown (same.trans id.symm)

/-- The item of the workday, said to have arrived a second later. -/
def lateItem : Evidence := { loneItem with addedAt := Timestamp.epoch.later 1000000000 }

/-- The request that registers the item of the workday again. -/
def again : Request where
  method := "POST"
  target := "/api/cases/case/evidences"
  headers := [("accept", "*/*"), ("content-type", "application/json")]
  body := Wire.render lateItem

/-- The task of the workday looks up the records of its job. -/
def lookUps : List Turn := [.act 0 (.proceed "wwww" true), .act 0 (.proceed "wwww" true)]

/-- The body of the second request is the item with the later time. -/
theorem bodyOf_again (now : Timestamp) : bodyOf now again = .ok lateItem :=
  bodyOf_registration rfl (List.forall_mem_nil _) rfl now

/-- The path of the second request is the one of the case. -/
theorem route_again : Route.ofPath? again.path = some (.registerEvidence "case".toList) := by
  decide +kernel

/-- At the end of the workday the item is registered again, and then shown to the worker. -/
theorem serve_again :
    let w := (World.empty lone.supply).run workday
    ∃ d ∈ w.members, ∃ jobs store,
      serve ⟨w.store, d⟩ none 0 "localhost" again = (created lateItem jobs, [], ⟨store, d⟩) ∧
      (Store.getEvidence "case" "item" store).1 = .ok loneItem ∧
      let w' := World.run { w with store } lookUps
      ∃ d' ∈ w'.members, ∃ worker line,
        .line worker line ∈ (act ⟨w'.store, d'⟩ (.proceed "wwww" true)).1 ∧
        line.evidence? = some loneItem := by
  intro w
  obtain ⟨d, member, registers, found, seen⟩ : ∃ d ∈ w.members,
      let run := d.registerEvidence lateItem { w.store with supply := w.store.supply.now.2 }
      let w' := World.run { w with store := run.2 } lookUps
      run.1.toOption.isSome = true ∧
        (Store.getEvidence "case" "item" run.2).1.toOption = some loneItem ∧
        ∃ d' ∈ w'.members, ∃ event ∈ (act ⟨w'.store, d'⟩ (.proceed "wwww" true)).1,
          ∃ shown ∈ event.line?, shown.2.evidence? = some loneItem := by decide +kernel
  have reaches : again.Reaches lateItem.caseId := ⟨_, route_again, by decide +kernel⟩
  have served := serve_of_reaches rfl bodyOf_again reaches ⟨w.store, d⟩ none rfl 0 "localhost"
  rcases run : d.registerEvidence lateItem { w.store with supply := w.store.supply.now.2 } with
    ⟨e | jobs, store⟩
  · simp [run, Except.toOption] at registers
  rw [run] at found seen
  refine ⟨d, member, jobs, store, ?_, ?_, ?_⟩
  · rw [served]
    simp [answer, Server.onStore, run, respond, created]
  · rcases got : (Store.getEvidence "case" "item" store).1 with e | x
    · simp [got, Except.toOption] at found
    · simpa [got, Except.toOption] using found
  · obtain ⟨d', hd', event, shows, ⟨worker, line⟩, isLine, item⟩ := seen
    cases event with
    | closed worker => cases isLine
    | line worker line =>
      obtain ⟨rfl, rfl⟩ := Prod.mk.inj (Option.some.inj isLine)
      exact ⟨d', hd', _, _, shows, item⟩

/-- **The time that is answered is not the one that is stored,** nor the one that the worker is
shown then. -/
theorem late_time_not_stored :
    let w := (World.empty lone.supply).run workday
    ∃ d ∈ w.members, ∃ jobs store,
      serve ⟨w.store, d⟩ none 0 "localhost" again = (created lateItem jobs, [], ⟨store, d⟩) ∧
      (Store.getEvidence lateItem.caseId lateItem.id store).1 = .ok loneItem ∧
      Wire.toJson lateItem ≠ Wire.toJson loneItem ∧
      let w' := World.run { w with store } lookUps
      ∃ d' ∈ w'.members, ∃ worker line,
        .line worker line ∈ (act ⟨w'.store, d'⟩ (.proceed "wwww" true)).1 ∧
        line.evidence? = some loneItem := by
  intro w
  obtain ⟨d, member, jobs, store, served, found, shown⟩ := serve_again
  have other : lateItem ≠ loneItem := by decide +kernel
  have differs : Wire.toJson lateItem ≠ Wire.toJson loneItem :=
    fun same => other (Evidence.eq_of_toJson same)
  exact ⟨d, member, jobs, store, served, found, differs, shown⟩

/-- The item of the workday has another time than the record, so the answer is not what was stored;
and no task has a line ready, so what the worker is shown is. -/
theorem answer_is_stored_iff_late :
    let w := (World.empty lone.supply).run workday
    Route.ofPath? again.path = some (.registerEvidence "case".toList) ∧ ∃ d ∈ w.members,
      let o := serve ⟨w.store, d⟩ none 0 "localhost" again
      let w' : World := { w with store := o.2.2.store }
      o.1.status = 201 ∧ w'.Spares "item" lookUps ∧ ∃ (stored : Evidence) (jobs : List Job),
        o.1.body = .json (.object [("evidence", Wire.toJson lateItem), ("jobs", listJson jobs)]) ∧
        Store.getEvidence "case" "item" w'.store = (.ok stored, w'.store) ∧
        Wire.toJson stored ≠ Wire.toJson lateItem ∧
        ∃ d' ∈ (w'.run lookUps).members, ∃ worker line,
          .line worker line ∈ (act ⟨(w'.run lookUps).store, d'⟩ (.proceed "wwww" true)).1 ∧
          line.evidence? = some stored := by
  intro w
  obtain ⟨d, member, jobs, store, served, -, d', hd', worker, line, seen, item⟩ := serve_again
  have status : (serve ⟨w.store, d⟩ none 0 "localhost" again).1.status = 201 := by rw [served]; rfl
  have spares (w' : World) : w'.Spares "item" lookUps := ⟨fun h => h, fun h => h, trivial⟩
  obtain ⟨e, stored, jobs', read, -, body, -, found, -, -, whole, later⟩ :=
    answer_is_stored_iff lone.supply workday member route_again status
  obtain rfl : lateItem = e := Except.ok.inj ((bodyOf_again _).symm.trans read)
  refine ⟨route_again, d, member, status, spares _, stored, jobs', body, found, fun same => ?_, ?_⟩
  · have arrived : ∃ x ∈ w.store.evidences.rows, x.id = "item" ∧ x.addedAt ≠ lateItem.addedAt := by
      decide +kernel
    obtain ⟨x, held, id, other⟩ := arrived
    exact other (whole.1 same x held id)
  · have idle : ∀ d ∈ w.members, ∀ c ∈ d.connections, c.phase.item? = none := by decide +kernel
    rw [served] at later ⊢
    refine ⟨d', hd', worker, line, seen, ?_⟩
    obtain rfl | ⟨d₀, hd₀, c, hc, due⟩ :=
      (later lookUps (spares _)).2 d' hd' _ worker line seen loneItem item rfl
    · exact item
    · have silent := idle d₀ hd₀ c hc
      rw [due] at silent
      cases silent.symm.trans item

end Http
end Casework
