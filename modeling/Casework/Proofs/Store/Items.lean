/-
# An item stays in its case

Someone saves records of evidence, one after the other, for any cases and under any ids.  Whatever
the records are, an id has one item at most, and what it is can be read off the records that were
saved under the id (`itemOf`):

| of the item | comes from |
| --- | --- |
| case, time of arrival | the first record saved under the id |
| all else | the last one |

So an item never moves, however the saves go on, and a record is refused just when the item of its
id is in another case (`items_never_move`).
-/

import Casework.Proofs.Store.References

namespace Casework
namespace Store

/-- Of some records that are to be saved, one after the other, those that are. -/
def accepted : List Evidence → Store → List Evidence
  | [], _ => []
  | e :: es, s =>
    match saveEvidence e s with
    | (.ok (), s) => e :: accepted es s
    | (.error _, s) => accepted es s

/-- The store after these saves, whatever their answers are. -/
def afterSaves (es : List Evidence) (s : Store) : Store :=
  es.foldl (fun s e => (saveEvidence e s).2) s

/-- The item that the records saved under an id leave. -/
def itemOf (log : List Evidence) (id : String) : Option Evidence :=
  match log.find? fun e => e.id == id, log.reverse.find? fun e => e.id == id with
  | some first, some last => some { last with caseId := first.caseId, addedAt := first.addedAt }
  | _, _ => none

variable {s : Store} {e x : Evidence} {es log rows : List Evidence} {id caseId : String}

/-- The row that is found under an id. -/
theorem of_find?_id (found : (rows.find? fun r => r.id == id) = some x) :
    x ∈ rows ∧ x.id = id :=
  ⟨List.mem_of_find?_eq_some found, by simpa using List.find?_some found⟩

/-! ## One more record -/

/-- A record that is saved becomes the item of its id, or what was there takes it over. -/
theorem itemOf_concat (log : List Evidence) (e : Evidence) (id : String) :
    itemOf (log ++ [e]) id =
      if e.id = id then some (((itemOf log id).map (mergeEvidence e)).getD e)
      else itemOf log id := by
  unfold itemOf
  rw [List.reverse_concat, List.find?_append, List.find?_cons, List.find?_cons, List.find?_nil]
  by_cases own : e.id = id
  · cases first : log.find? fun x => x.id == id with
    | none =>
      subst own
      simp
    | some old =>
      -- what is saved first is saved, so something is saved last
      obtain ⟨last, found⟩ : ∃ last, log.reverse.find? (fun x => x.id == id) = some last := by
        obtain ⟨member, same⟩ := of_find?_id first
        refine Option.isSome_iff_exists.1 (List.find?_isSome.2 ⟨old, ?_, beq_iff_eq.2 same⟩)
        exact List.mem_reverse.2 member
      simp [own, found, mergeEvidence]
  · have other : (e.id == id) = false := beq_eq_false_iff_ne.2 own
    cases first : log.find? fun x => x.id == id <;> simp [own, other]

/-- So does its row. -/
theorem find?_upsert (e : Evidence) (rows : List Evidence) (id : String) :
    (upsert (fun r => r.id == e.id) (mergeEvidence e) e rows).find? (fun r => r.id == id) =
      if e.id = id then some (((rows.find? fun r => r.id == id).map (mergeEvidence e)).getD e)
      else rows.find? fun r => r.id == id := by
  unfold upsert
  split
  next held =>
    -- rewriting leaves the ids as they are, so the same row is found
    have same : ((fun r : Evidence => r.id == id) ∘
        fun r => if r.id == e.id then mergeEvidence e r else r) = fun r => r.id == id := by
      funext r
      exact congrArg (· == id) (update_evidence e r).1
    rw [changeAll, List.find?_map, same]
    by_cases own : e.id = id
    · subst own
      obtain ⟨old, found⟩ :=
        Option.isSome_iff_exists.1 (List.find?_isSome.2 (List.any_eq_true.1 held))
      simp [found, (of_find?_id found).2]
    · cases found : rows.find? fun r => r.id == id with
      | none => simp [own]
      | some old =>
        obtain ⟨-, rfl⟩ := of_find?_id found
        simp [own, Ne.symm own]
  next free =>
    rw [List.find?_append, List.find?_cons, List.find?_nil]
    by_cases own : e.id = id
    · subst own
      have nothing : rows.find? (fun r => r.id == e.id) = none := by
        simpa [List.find?_eq_none] using free
      simp [nothing]
    · have other : (e.id == id) = false := beq_eq_false_iff_ne.2 own
      simp [own, other]

/-- Ids stay distinct when an item is saved. -/
theorem nodup_upsert (e : Evidence) (single : (rows.map Evidence.id).Nodup) :
    ((upsert (fun r => r.id == e.id) (mergeEvidence e) e rows).map Evidence.id).Nodup := by
  unfold upsert
  split
  next held =>
    have ids : (changeAll (fun r => r.id == e.id) (mergeEvidence e) rows).map Evidence.id =
        rows.map Evidence.id := by
      rw [changeAll, List.map_map]
      exact List.map_congr_left fun r _ => (update_evidence e r).1
    rw [ids]
    exact single
  next free =>
    rw [List.map_append, List.map_singleton, ← List.concat_eq_append, List.nodup_concat]
    refine ⟨fun member => free ?_, single⟩
    obtain ⟨r, there, same⟩ := List.mem_map.1 member
    exact List.any_eq_true.2 ⟨r, there, beq_iff_eq.2 same⟩

/-- **A record is refused** if the item of its id is in another case, and is saved otherwise. -/
theorem run_saveEvidence (there : s.evidences.lost = false) (e : Evidence) :
    saveEvidence e s =
      if ∃ x ∈ s.evidences.rows, x.id = e.id ∧ x.caseId ≠ e.caseId then
        (.error (.validation ("evidence " ++ e.id ++ " belongs to another case")), s)
      else (.ok (), { s with evidences :=
        ⟨upsert (fun r => r.id == e.id) (mergeEvidence e) e s.evidences.rows, false⟩ }) := by
  have elsewhere : (s.evidences.rows.any fun r => r.id == e.id && r.caseId != e.caseId) = true ↔
      ∃ x ∈ s.evidences.rows, x.id = e.id ∧ x.caseId ≠ e.caseId := by simp
  simp only [saveEvidence, run_bind, run_evidenceRows, there, Bool.false_eq_true, if_false,
    ← elsewhere]
  split <;> rfl

/-- An item is found in its case, and in no other. -/
theorem run_getEvidence (there : s.evidences.lost = false)
    (single : (s.evidences.rows.map Evidence.id).Nodup) (caseId id : String) :
    (∀ x, getEvidence caseId id s = (.ok x, s) ↔
        x ∈ s.evidences.rows ∧ x.id = id ∧ x.caseId = caseId) ∧
      ((∀ x ∈ s.evidences.rows, x.id = id → x.caseId ≠ caseId) →
        getEvidence caseId id s =
          (.error (.notFound ("evidence " ++ id ++ " in case " ++ caseId)), s)) := by
  cases found : s.evidences.rows.find? fun r => r.caseId == caseId && r.id == id with
  | none =>
    have run : getEvidence caseId id s =
        (.error (.notFound ("evidence " ++ id ++ " in case " ++ caseId)), s) := by
      simp [getEvidence, there, found]
    refine ⟨fun x => ?_, fun _ => run⟩
    rw [run]
    refine iff_of_false (fun same => by cases congrArg Prod.fst same) ?_
    rintro ⟨member, rfl, rfl⟩
    exact List.find?_eq_none.1 found x member (by simp)
  | some y =>
    have member := List.mem_of_find?_eq_some found
    have holds := List.find?_some found
    simp only [Bool.and_eq_true, beq_iff_eq] at holds
    obtain ⟨rfl, rfl⟩ := holds
    have run : getEvidence y.caseId y.id s = (.ok y, s) := by
      simp [getEvidence, there, found]
    refine ⟨fun x => ?_, fun none => absurd rfl (none y member rfl)⟩
    rw [run]
    constructor
    · intro same
      obtain rfl : y = x := Except.ok.inj (congrArg Prod.fst same)
      exact ⟨member, rfl, rfl⟩
    · rintro ⟨held, id, -⟩
      rw [List.inj_on_of_nodup_map single held member id]

/-! ## Any number of records -/

/-- The table is what some saved records leave. -/
structure HoldsItems (log : List Evidence) (s : Store) : Prop where
  there : s.evidences.lost = false
  single : (s.evidences.rows.map Evidence.id).Nodup
  items : ∀ id, (s.evidences.rows.find? fun x => x.id == id) = itemOf log id

/-- The empty table is what no records leave. -/
theorem holdsItems_nil (s : Store) : HoldsItems [] { s with evidences := {} } :=
  ⟨rfl, List.nodup_nil, fun _ => rfl⟩

/-- **Each record that is saved** is one more for the items; one that is refused changes nothing. -/
theorem HoldsItems.save (h : HoldsItems log s) (e : Evidence) :
    HoldsItems (log ++ accepted [e] s) (saveEvidence e s).2 := by
  by_cases elsewhere : ∃ x ∈ s.evidences.rows, x.id = e.id ∧ x.caseId ≠ e.caseId
  · simp only [accepted, run_saveEvidence h.there, if_pos elsewhere, List.append_nil]
    exact h
  · simp only [accepted, run_saveEvidence h.there, if_neg elsewhere]
    refine ⟨rfl, nodup_upsert e h.single, fun id => ?_⟩
    rw [find?_upsert, itemOf_concat, h.items]

/-- The first record is accepted or not, and the others after it. -/
theorem accepted_cons (e : Evidence) (es : List Evidence) (s : Store) :
    accepted (e :: es) s = accepted [e] s ++ accepted es (saveEvidence e s).2 := by
  rw [accepted, accepted]
  rcases saveEvidence e s with ⟨er | u, s'⟩ <;> rfl

/-- **After any saves** the table is what the accepted records leave. -/
theorem HoldsItems.saves (h : HoldsItems log s) (es : List Evidence) :
    HoldsItems (log ++ accepted es s) (afterSaves es s) := by
  induction es generalizing log s with
  | nil =>
    rw [accepted, List.append_nil]
    exact h
  | cons e es ih =>
    rw [accepted_cons, ← List.append_assoc]
    exact ih (h.save e)

/-- Of two series of records those of the second are accepted after the first. -/
theorem accepted_append (es more : List Evidence) (s : Store) :
    accepted (es ++ more) s = accepted es s ++ accepted more (afterSaves es s) := by
  induction es generalizing s with
  | nil => rfl
  | cons e es ih =>
    rw [List.cons_append, accepted_cons, ih, accepted_cons e es, List.append_assoc]
    rfl

/-- The item of an id keeps its case and its time of arrival, whatever is saved later. -/
theorem itemOf_append (found : itemOf log id = some x) (more : List Evidence) :
    ∃ y, itemOf (log ++ more) id = some y ∧ y.caseId = x.caseId ∧ y.addedAt = x.addedAt := by
  induction more using List.reverseRecOn with
  | nil => exact ⟨x, by rwa [List.append_nil], rfl, rfl⟩
  | append_singleton more e ih =>
    obtain ⟨y, found, case, time⟩ := ih
    rw [← List.append_assoc, itemOf_concat, found]
    split
    · exact ⟨_, rfl, case, time⟩
    · exact ⟨y, rfl, case, time⟩

/-- The items of the table are those that the records leave. -/
theorem HoldsItems.mem_iff (h : HoldsItems log s) :
    x ∈ s.evidences.rows ↔ itemOf log x.id = some x := by
  rw [← h.items]
  constructor
  · intro member
    cases found : s.evidences.rows.find? fun y => y.id == x.id with
    | none => simpa using List.find?_eq_none.1 found x member
    | some y =>
      obtain ⟨there, same⟩ := of_find?_id found
      rw [List.inj_on_of_nodup_map h.single there member same]
  · exact List.mem_of_find?_eq_some

/-- **Items never move.**  Records of evidence are saved, as many as there are and whatever they
say, in a store that has none.  Then, of the records that were accepted:

* an id has one row at most, with the case and the time of arrival of the first record saved under
  it and all else of the last one, and none if no record was saved under it;
* however the saves go on, the row keeps its case and its time of arrival;
* a further record is refused, as one of another case and without any change, just when the row of
  its id is in another case, and is saved otherwise;
* a row is found in its case, and nothing is found under its id in any other. -/
theorem items_never_move (s : Store) (es : List Evidence) :
    let start : Store := { s with evidences := {} }
    let t := afterSaves es start
    ((t.evidences.rows.map Evidence.id).Nodup ∧
      ∀ id, (t.evidences.rows.find? fun x => x.id == id) = itemOf (accepted es start) id) ∧
    (∀ more, ∀ x ∈ t.evidences.rows, ∃ y ∈ (afterSaves (es ++ more) start).evidences.rows,
      y.id = x.id ∧ y.caseId = x.caseId ∧ y.addedAt = x.addedAt) ∧
    (∀ e, saveEvidence e t =
          (.error (.validation ("evidence " ++ e.id ++ " belongs to another case")), t) ∧
          (∃ x ∈ t.evidences.rows, x.id = e.id ∧ x.caseId ≠ e.caseId) ∨
        (saveEvidence e t).1 = .ok () ∧
          ∀ x ∈ t.evidences.rows, x.id = e.id → x.caseId = e.caseId) ∧
    ∀ caseId id,
      (∀ x, getEvidence caseId id t = (.ok x, t) ↔
        x ∈ t.evidences.rows ∧ x.id = id ∧ x.caseId = caseId) ∧
      ((∀ x ∈ t.evidences.rows, x.id = id → x.caseId ≠ caseId) →
        getEvidence caseId id t =
          (.error (.notFound ("evidence " ++ id ++ " in case " ++ caseId)), t)) := by
  intro start t
  have holds (es : List Evidence) : HoldsItems (accepted es start) (afterSaves es start) :=
    (holdsItems_nil s).saves es
  refine ⟨⟨(holds es).single, (holds es).items⟩, fun more x member => ?_, fun e => ?_,
    run_getEvidence (holds es).there (holds es).single⟩
  · obtain ⟨y, found, case, time⟩ := itemOf_append ((holds es).mem_iff.1 member)
      (accepted more (afterSaves es start))
    rw [← accepted_append, ← (holds (es ++ more)).items] at found
    obtain ⟨there, same⟩ := of_find?_id found
    exact ⟨y, there, same, case, time⟩
  · rw [run_saveEvidence (holds es).there]
    split
    next elsewhere => exact .inl ⟨rfl, elsewhere⟩
    next own =>
      refine .inr ⟨rfl, fun x member same => ?_⟩
      by_contra other
      exact own ⟨x, member, same, other⟩

end Store
end Casework
