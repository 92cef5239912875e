/-
# Jobs refer to evidence, evidence to cases

The tables have no foreign keys.  That a job's item and an item's case are on record rests on what
the operations look up first, and on evidence never moving between cases.  `Store.Linked` says what
holds of the three tables, and `Store.Follows` what an operation keeps of them: the store stays
linked, and what was on record stays there.  An operation that writes a reference follows a linked
store if what it refers to is on record (`Linked.enqueue`, `Linked.saveEvidence`); the others follow
it in any case.

In a linked store an id names an item of one case only, so all jobs on an item belong to the case in
which it was found (`Linked.caseId_eq`).
-/

import Casework.Proofs.Store.Operations
import Casework.Dispatch.Dispatcher

namespace Casework

/-- A row is read as the job that it holds. -/
theorem JobRow.read_eq_ok {r : JobRow} {job : Job} : r.read = .ok job ↔ r.job? = some job := by
  unfold JobRow.read
  cases r.job? <;> simp

/-- What is read from some rows is read from one of them. -/
theorem mem_readRows {α β : Type} {read : α → Except Error β} {rows : List α} {bs : List β}
    (h : readRows read rows = .ok bs) {b : β} (hb : b ∈ bs) : ∃ r ∈ rows, read r = .ok b := by
  induction rows generalizing bs with
  | nil =>
    obtain rfl : [] = bs := Except.ok.inj h
    simp at hb
  | cons r rows ih =>
    rw [readRows] at h
    cases first : read r with
    | error e => simp [first] at h
    | ok b' =>
      cases rest : readRows read rows with
      | error e => simp [first, rest] at h
      | ok bs' =>
        obtain rfl : b' :: bs' = bs := by simpa [first, rest] using h
        obtain rfl | hb := List.mem_cons.1 hb
        · exact ⟨r, List.mem_cons_self, first⟩
        · obtain ⟨r', hr', read⟩ := ih rest hb
          exact ⟨r', List.mem_cons_of_mem _ hr', read⟩

namespace Store

/-- The case is on record. -/
def HasCase (s : Store) (id : String) : Prop := ∃ c ∈ s.cases.rows, c.id = id

/-- The item is on record, in the case. -/
def Filed (s : Store) (caseId evidenceId : String) : Prop :=
  ∃ e ∈ s.evidences.rows, e.id = evidenceId ∧ e.caseId = caseId

/-- Every item's case is on record, and every job's item, in the job's case. -/
structure Linked (s : Store) : Prop where
  keyed : Keyed s.jobs.rows
  single : (s.evidences.rows.map Evidence.id).Nodup
  hasCase : ∀ e ∈ s.evidences.rows, s.HasCase e.caseId
  filed : ∀ r ∈ s.jobs.rows, s.Filed r.caseId r.evidenceId

/-- A linked store after which nothing is missing that was on record before. -/
structure Follows (s s' : Store) : Prop where
  linked : s'.Linked
  hasCase : ∀ {id : String}, s.HasCase id → s'.HasCase id
  filed : ∀ {caseId evidenceId : String}, s.Filed caseId evidenceId → s'.Filed caseId evidenceId

variable {s s' s'' : Store} {caseId evidenceId : String}

theorem Follows.trans (h : s.Follows s') (h' : s'.Follows s'') : s.Follows s'' :=
  ⟨h'.linked, fun there => h'.hasCase (h.hasCase there), fun there => h'.filed (h.filed there)⟩

/-- An id names one item. -/
theorem Linked.eq_of_id (h : s.Linked) {e e' : Evidence} (he : e ∈ s.evidences.rows)
    (he' : e' ∈ s.evidences.rows) (same : e.id = e'.id) : e = e' :=
  List.inj_on_of_nodup_map h.single he he' same

/-- **The jobs on an item belong to its case.** -/
theorem Linked.caseId_eq (h : s.Linked) (filed : s.Filed caseId evidenceId) {r : JobRow}
    (hr : r ∈ s.jobs.rows) (on : r.evidenceId = evidenceId) : r.caseId = caseId := by
  obtain ⟨e, he, rfl, rfl⟩ := filed
  obtain ⟨e', he', id, case⟩ := h.filed r hr
  have same : e' = e := h.eq_of_id he' he (id.trans on)
  rw [← case, same]

/-- A store without rows refers to nothing. -/
theorem linked_empty (supply : Supply) : Linked { supply := supply } :=
  ⟨List.nodup_nil, List.nodup_nil, fun _ he => absurd he List.not_mem_nil,
    fun _ hr => absurd hr List.not_mem_nil⟩

/-! ## Looking up -/

/-- A case that is on record is found, if its table is in reach. -/
theorem getCase_of_hasCase {id : String} (h : s.HasCase id) :
    (∃ c, getCase id s = (.ok c, s)) ∨ getCase id s = (.error (lostTable .cases), s) := by
  by_cases lost : s.cases.lost = true
  · exact .inr (by simp [getCase, lost])
  · have there : (s.cases.rows.find? fun c => c.id == id).isSome := by
      obtain ⟨c, hc, same⟩ := h
      exact List.find?_isSome.2 ⟨c, hc, by simpa using same⟩
    obtain ⟨c, found⟩ := Option.isSome_iff_exists.1 there
    exact .inl ⟨c, by simp [getCase, lost, found]⟩

/-- A case that is found is on record. -/
theorem hasCase_of_getCase {id : String} {c : Case} (h : (getCase id s).1 = .ok c) :
    s.HasCase id := by
  by_cases lost : s.cases.lost = true
  · simp [getCase, lost] at h
  · cases found : s.cases.rows.find? fun c => c.id == id with
    | none => simp [getCase, lost, found] at h
    | some c => exact ⟨c, List.mem_of_find?_eq_some found, by simpa using List.find?_some found⟩

/-- An item that is on record is found, if its table is in reach. -/
theorem getEvidence_of_filed (h : s.Filed caseId evidenceId) :
    (∃ e, getEvidence caseId evidenceId s = (.ok e, s)) ∨
      getEvidence caseId evidenceId s = (.error (lostTable .evidences), s) := by
  by_cases lost : s.evidences.lost = true
  · exact .inr (by simp [getEvidence, lost])
  · have there : (s.evidences.rows.find? fun e =>
        e.caseId == caseId && e.id == evidenceId).isSome := by
      obtain ⟨e, he, id, case⟩ := h
      exact List.find?_isSome.2 ⟨e, he, by simp [id, case]⟩
    obtain ⟨e, found⟩ := Option.isSome_iff_exists.1 there
    exact .inl ⟨e, by simp [getEvidence, lost, found]⟩

/-- An item that is found is on record. -/
theorem filed_of_getEvidence {e : Evidence} (h : (getEvidence caseId evidenceId s).1 = .ok e) :
    s.Filed caseId evidenceId := by
  by_cases lost : s.evidences.lost = true
  · simp [getEvidence, lost] at h
  · cases found : s.evidences.rows.find? fun e => e.caseId == caseId && e.id == evidenceId with
    | none => simp [getEvidence, lost, found] at h
    | some e =>
      obtain ⟨case, id⟩ : e.caseId = caseId ∧ e.id = evidenceId := by
        simpa using List.find?_some found
      exact ⟨e, List.mem_of_find?_eq_some found, id, case⟩

/-- A job that is listed for an item is read from a row on it. -/
theorem mem_listJobs {jobs : List Job} (h : (listJobs evidenceId s).1 = .ok jobs) {job : Job}
    (hj : job ∈ jobs) : ∃ r ∈ s.jobs.rows, r.evidenceId = evidenceId ∧ r.job? = some job := by
  by_cases lost : s.jobs.lost = true
  · simp [listJobs, lost] at h
  · have read : readRows JobRow.read (s.jobs.rows.filter fun r => r.evidenceId == evidenceId) =
        .ok jobs := by
      simpa [listJobs, lost] using h
    obtain ⟨r, hr, job⟩ := mem_readRows read hj
    obtain ⟨hr, on⟩ := List.mem_filter.1 hr
    exact ⟨r, hr, by simpa using on, JobRow.read_eq_ok.1 job⟩

/-- **The jobs listed for an item belong to its case,** though the list goes by the item's id. -/
theorem Linked.listJobs (h : s.Linked) (filed : s.Filed caseId evidenceId) {jobs : List Job}
    (listed : (listJobs evidenceId s).1 = .ok jobs) {job : Job} (hj : job ∈ jobs) :
    ∃ r ∈ s.jobs.rows, r.job? = some job ∧ r.caseId = caseId ∧ r.evidenceId = evidenceId := by
  obtain ⟨r, hr, on, read⟩ := mem_listJobs listed hj
  exact ⟨r, hr, read, h.caseId_eq filed hr on, on⟩

/-! ## Changing the tables -/

/-- A store with the same rows, hooks apart, follows. -/
theorem Linked.follows_of_rows (h : s.Linked) (jobs : s'.jobs.rows = s.jobs.rows)
    (cases : s'.cases.rows = s.cases.rows) (evidences : s'.evidences.rows = s.evidences.rows) :
    s.Follows s' := by
  have hasCase {id : String} (there : s.HasCase id) : s'.HasCase id := by
    rw [HasCase, cases]
    exact there
  have filed {c e : String} (there : s.Filed c e) : s'.Filed c e := by
    rw [Filed, evidences]
    exact there
  refine ⟨⟨?_, ?_, fun e he => ?_, fun r hr => ?_⟩, hasCase, filed⟩
  · rw [jobs]
    exact h.keyed
  · rw [evidences]
    exact h.single
  · rw [evidences] at he
    exact hasCase (h.hasCase e he)
  · rw [jobs] at hr
    exact filed (h.filed r hr)

/-- A linked store follows itself. -/
theorem Linked.refl (h : s.Linked) : s.Follows s := h.follows_of_rows rfl rfl rfl

/-- A change of the job table follows if what comes in is filed. -/
theorem Linked.changed {ch : JobChange} (h : s.Linked) (changed : s.Changed ch s')
    (filed : ∀ r ∈ ch.added, s.Filed r.caseId r.evidenceId) : s.Follows s' := by
  have hasCase {id : String} (there : s.HasCase id) : s'.HasCase id := by
    rw [HasCase, changed.cases]
    exact there
  have stays {c e : String} (there : s.Filed c e) : s'.Filed c e := by
    rw [Filed, changed.evidences]
    exact there
  refine ⟨⟨changed.keyed h.keyed, ?_, fun e he => ?_, fun r hr => ?_⟩, hasCase, stays⟩
  · rw [changed.evidences]
    exact h.single
  · rw [changed.evidences] at he
    exact hasCase (h.hasCase e he)
  · rw [changed.rows] at hr
    obtain ⟨old, held, rfl⟩ | new := JobChange.mem_apply.1 hr
    · have same := JobChange.onRow_sameJob ch old
      rw [same.caseId, same.evidenceId]
      exact stays (h.filed old held)
    · exact stays (filed r new)

/-- Queueing follows if the item is filed. -/
theorem Linked.enqueue (h : s.Linked) (filed : s.Filed caseId evidenceId)
    (server : InstanceToken) (moduleName : String) :
    s.Follows (enqueue server caseId evidenceId moduleName s).2 := by
  obtain ⟨e, supply, used, -, run⟩ | ⟨row, rfl, there, new, run⟩ :=
    enqueue_cases server caseId evidenceId moduleName s
  · rw [run]
    exact h.follows_of_rows rfl rfl rfl
  · rw [run]
    refine h.changed (changed_queue there new) fun r hr => ?_
    obtain rfl := List.mem_singleton.1 hr
    exact filed

/-- A change by which no job comes in follows. -/
theorem Linked.moved (h : s.Linked) (moved : s.Moved s') : s.Follows s' := by
  obtain ⟨ch, changed, none⟩ := moved
  exact h.changed changed fun r hr => absurd (none ▸ hr) List.not_mem_nil

/-- Saving a case keeps every case on record. -/
theorem Linked.saveCase (h : s.Linked) (c : Case) : s.Follows (saveCase c s).2 := by
  obtain ⟨e, run⟩ | ⟨-, run⟩ := saveCase_cases c s
  · rw [run]
    exact h.refl
  · rw [run]
    have hasCase {id : String} (there : s.HasCase id) : HasCase { s with
        cases := ⟨upsert (fun r => r.id == c.id) (fun _ => c) c s.cases.rows, false⟩ } id := by
      obtain ⟨c', hc', rfl⟩ := there
      rw [HasCase]
      dsimp only
      unfold upsert
      split
      · refine ⟨_, List.mem_map_of_mem hc', ?_⟩
        by_cases same : c'.id = c.id <;> simp [same]
      · exact ⟨c', List.mem_append_left _ hc', rfl⟩
    exact ⟨⟨h.keyed, h.single, fun e he => hasCase (h.hasCase e he), h.filed⟩, hasCase, id⟩

/-- The row of an item stays the item's, in its case, when an item is saved. -/
theorem update_evidence (e x : Evidence) :
    (if x.id == e.id then mergeEvidence e x else x).id = x.id ∧
      (if x.id == e.id then mergeEvidence e x else x).caseId = x.caseId := by
  by_cases same : x.id = e.id <;> simp [same, mergeEvidence]

/-- Saving an item follows if its case is on record, and then the item is. -/
theorem Linked.saveEvidence {e : Evidence} (h : s.Linked) (there : s.HasCase e.caseId) :
    s.Follows (saveEvidence e s).2 ∧
      ((saveEvidence e s).1 = .ok () → (saveEvidence e s).2.Filed e.caseId e.id) := by
  obtain ⟨er, run⟩ | ⟨-, rows, run, ⟨new, rfl⟩ | ⟨⟨x, hx, id, case⟩, rfl⟩⟩ :=
    saveEvidence_cases e s
  · rw [run]
    exact ⟨h.refl, nofun⟩
  · rw [run]
    have filed {c i : String} (there : s.Filed c i) :
        Filed { s with evidences := ⟨s.evidences.rows ++ [e], false⟩ } c i := by
      obtain ⟨x, hx, same⟩ := there
      exact ⟨x, List.mem_append_left _ hx, same⟩
    refine ⟨⟨⟨h.keyed, ?_, fun x hx => ?_, fun r hr => filed (h.filed r hr)⟩, fun held => held,
      filed⟩, fun _ => ⟨e, by simp, rfl, rfl⟩⟩
    · rw [List.map_append, List.nodup_append]
      refine ⟨h.single, by simp, fun id old id' added => ?_⟩
      obtain rfl : id' = e.id := by simpa using added
      rintro rfl
      exact new old
    · obtain old | added := List.mem_append.1 hx
      · exact h.hasCase x old
      · obtain rfl := List.mem_singleton.1 added
        exact there
  · rw [run]
    have filed {c i : String} (there : s.Filed c i) : Filed { s with
        evidences := ⟨changeAll (fun r => r.id == e.id) (mergeEvidence e) s.evidences.rows, false⟩ }
        c i := by
      obtain ⟨x, hx, id, case⟩ := there
      obtain ⟨id', case'⟩ := update_evidence e x
      exact ⟨_, List.mem_map_of_mem hx, id'.trans id, case'.trans case⟩
    refine ⟨⟨⟨h.keyed, ?_, fun x hx => ?_, fun r hr => filed (h.filed r hr)⟩, fun held => held,
      filed⟩, fun _ => filed ⟨x, hx, id, case⟩⟩
    · have ids : (changeAll (fun r => r.id == e.id) (mergeEvidence e) s.evidences.rows).map
          Evidence.id = s.evidences.rows.map Evidence.id := by
        rw [changeAll, List.map_map]
        exact List.map_congr_left fun x _ => (update_evidence e x).1
      dsimp only
      rw [ids]
      exact h.single
    · obtain ⟨old, held, rfl⟩ := List.mem_map.1 hx
      rw [(update_evidence e old).2]
      exact h.hasCase old held

/-- To save a hook leaves all references good. -/
theorem Linked.saveHook (h : s.Linked) (hook : Hook) : s.Follows (saveHook hook s).2 := by
  obtain ⟨e, run⟩ | ⟨-, run⟩ := saveHook_cases hook s
  · rw [run]
    exact h.refl
  · rw [run]
    exact h.follows_of_rows rfl rfl rfl

/-- To delete a hook leaves all references good. -/
theorem Linked.deleteHook (h : s.Linked) (id : String) : s.Follows (deleteHook id s).2 := by
  obtain ⟨e, run⟩ | ⟨-, run⟩ := deleteHook_cases id s
  · rw [run]
    exact h.refl
  · rw [run]
    exact h.follows_of_rows rfl rfl rfl

end Store
end Casework
