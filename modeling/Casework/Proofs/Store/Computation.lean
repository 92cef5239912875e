/-
# Running a computation on the store

What the steps of a `StoreM` computation do to a store, as equations for `simp`: a computation is
run by rewriting it from its first step on, and only what it reads and writes is left.  One that
needs no store answers if all its parts do (`bind_eq_ok_iff`).
-/

import Casework.Store.Records

namespace Casework

/-- Two steps come to an end if both do. -/
theorem bind_eq_ok_iff {α β : Type} {x : Except Error α} {f : α → Except Error β} {b : β} :
    (x >>= f) = .ok b ↔ ∃ a, x = .ok a ∧ f a = .ok b := by
  cases x with
  | error e => exact ⟨nofun, fun ⟨a, given, _⟩ => nomatch given⟩
  | ok a => exact ⟨fun done => ⟨a, rfl, done⟩, fun ⟨a', given, done⟩ => Except.ok.inj given ▸ done⟩

namespace Store

variable {α β : Type}

@[simp] theorem run_pure (a : α) (s : Store) : (pure a : StoreM α) s = (.ok a, s) := rfl

@[simp] theorem run_throw (e : Error) (s : Store) : (throw e : StoreM α) s = (.error e, s) := rfl

/-- A step goes on with what the one before leaves, unless that fails. -/
@[simp] theorem run_bind (op : StoreM α) (next : α → StoreM β) (s : Store) :
    (op >>= next) s = match op s with
      | (.ok a, s) => next a s
      | (.error e, s) => (.error e, s) := by
  change ExceptT.bindCont next (op s).1 (op s).2 = _
  rcases op s with ⟨a | e, s'⟩ <;> rfl

@[simp] theorem run_map (f : α → β) (op : StoreM α) (s : Store) :
    (f <$> op) s = ((op s).1.map f, (op s).2) := by
  rw [map_eq_pure_bind, run_bind]
  rcases op s with ⟨a | e, s'⟩ <;> rfl

@[simp] theorem run_lift (x : Except Error α) (s : Store) : (liftM x : StoreM α) s = (x, s) := by
  cases x <;> rfl

@[simp] theorem run_modify (f : Store → Store) (s : Store) :
    (modify f : StoreM Unit) s = (.ok (), f s) := rfl

@[simp] theorem run_now (s : Store) :
    now s = (.ok s.supply.now.1, { s with supply := s.supply.now.2 }) := rfl

@[simp] theorem run_freshIdent (s : Store) :
    freshIdent s = (.ok s.supply.next.1, { s with supply := s.supply.next.2 }) := rfl

@[simp] theorem run_putJobs (rows : List JobRow) (s : Store) :
    putJobs rows s = (.ok (), { s with jobs := ⟨rows, false⟩ }) := rfl

/-- A table that is asked for is there, or the computation ends. -/
theorem run_read (lost : Store → Bool) (t : TableName) (rows : Store → List α) (s : Store) :
    (do let s ← get; if lost s then throw (lostTable t) else return rows s : StoreM (List α)) s =
      if lost s then (.error (lostTable t), s) else (.ok (rows s), s) := by
  change (if lost s then throw (lostTable t) else pure (rows s) : StoreM (List α)) s = _
  split <;> rfl

/-- The rows of jobs, if the table is in reach. -/
@[simp] theorem run_jobRows (s : Store) :
    jobRows s = if s.jobs.lost then (.error (lostTable .jobs), s) else (.ok s.jobs.rows, s) :=
  run_read (·.jobs.lost) .jobs (·.jobs.rows) s

@[simp] theorem run_caseRows (s : Store) :
    caseRows s = if s.cases.lost then (.error (lostTable .cases), s) else (.ok s.cases.rows, s) :=
  run_read (·.cases.lost) .cases (·.cases.rows) s

@[simp] theorem run_evidenceRows (s : Store) :
    evidenceRows s =
      if s.evidences.lost then (.error (lostTable .evidences), s) else (.ok s.evidences.rows, s) :=
  run_read (·.evidences.lost) .evidences (·.evidences.rows) s

@[simp] theorem run_hookRows (s : Store) :
    hookRows s = if s.hooks.lost then (.error (lostTable .hooks), s) else (.ok s.hooks.rows, s) :=
  run_read (·.hooks.lost) .hooks (·.hooks.rows) s

end Store
end Casework
