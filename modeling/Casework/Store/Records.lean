/-
# Cases, evidence and hooks in the store

Saving inserts a record or updates the one with its id. Evidence never moves: an id that
belongs to another case is refused, and an update keeps the case and the time of arrival.
-/

import Casework.Store.Basic

namespace Casework
namespace Store

/-- The rows with the record of the same key replaced by `update old`, or `new` added. -/
def upsert {α : Type} (same : α → Bool) (update : α → α) (new : α) (rows : List α) : List α :=
  if rows.any same then changeAll same update rows else rows ++ [new]

/-- Saves a case. -/
def saveCase (c : Case) : StoreM Unit := do
  let rows ← caseRows
  modify fun s => { s with
    cases := ⟨upsert (fun r => r.id == c.id) (fun _ => c) c rows, false⟩ }

/-- The case of an id. -/
def getCase (id : String) : StoreM Case := do
  let rows ← caseRows
  match rows.find? fun r => r.id == id with
  | some c => return c
  | none => throw (.notFound ("case " ++ id))

/-- The evidence row after the same item was saved again. -/
def mergeEvidence (new old : Evidence) : Evidence :=
  { new with caseId := old.caseId, addedAt := old.addedAt }

/-- Saves an item of evidence, unless its id belongs to another case. -/
def saveEvidence (e : Evidence) : StoreM Unit := do
  let rows ← evidenceRows
  if rows.any fun r => r.id == e.id && r.caseId != e.caseId then
    throw (.validation ("evidence " ++ e.id ++ " belongs to another case"))
  modify fun s => { s with
    evidences := ⟨upsert (fun r => r.id == e.id) (mergeEvidence e) e rows, false⟩ }

/-- The item of evidence of an id in a case. -/
def getEvidence (caseId id : String) : StoreM Evidence := do
  let rows ← evidenceRows
  match rows.find? fun r => r.caseId == caseId && r.id == id with
  | some e => return e
  | none => throw (.notFound ("evidence " ++ id ++ " in case " ++ caseId))

/-- Puts a hook row in its place by name; rows of equal name keep their order. -/
def insertByName (r : HookRow) : List HookRow → List HookRow
  | [] => [r]
  | s :: rows => if r.name < s.name then r :: s :: rows else s :: insertByName r rows

/-- Rows in the order of their names. -/
def sortByName (rows : List HookRow) : List HookRow :=
  rows.foldl (fun sorted r => insertByName r sorted) []

/-- The hooks in the order of their names. -/
def listHooks : StoreM (List Hook) := do
  let rows ← hookRows
  readRows HookRow.read (sortByName rows)

/-- Saves a hook. -/
def saveHook (h : Hook) : StoreM Unit := do
  let rows ← hookRows
  let row := HookRow.ofHook h
  modify fun s => { s with
    hooks := ⟨upsert (fun r => r.id == h.id) (fun _ => row) row rows, false⟩ }

/-- Removes the hook of an id. -/
def deleteHook (id : String) : StoreM Unit := do
  let rows ← hookRows
  if rows.any fun r => r.id == id then
    modify fun s => { s with hooks := ⟨rows.filter fun r => r.id != id, false⟩ }
  else throw (.notFound ("hook " ++ id))

/-! ## Rows from elsewhere -/

/-- Puts a job row in as it is; tells whether it could, for an id has one row only. -/
def insertJobRow (row : JobRow) : StoreM Bool := do
  let rows ← jobRows
  if rows.any fun r => r.id == row.id then return false
  putJobs (rows ++ [row])
  return true

/-- Puts a hook row in as it is; tells whether it could, for an id has one row only. -/
def insertHookRow (row : HookRow) : StoreM Bool := do
  let rows ← hookRows
  if rows.any fun r => r.id == row.id then return false
  modify fun s => { s with hooks := ⟨rows ++ [row], false⟩ }
  return true

end Store
end Casework
