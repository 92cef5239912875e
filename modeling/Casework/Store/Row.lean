/-
# Rows of the store

A job row is a job whose time stamps may have become unreadable behind the queue's back; such a
row is there, can be claimed and finished, and cannot be read. A hook row names its trigger by
a text.
-/

import Casework.Job.Basic
import Casework.Catalog.Record

namespace Casework

/-- A row of the job table. -/
structure JobRow where
  id : JobId
  caseId : String
  evidenceId : String
  moduleName : String
  status : JobStatus
  error : String
  serverToken : InstanceToken
  workerToken : WorkerToken
  /-- When the job was queued, `none` if the row's text is no time. -/
  createdAt? : Option Timestamp
  /-- When the row was last changed, `none` if the row's text is no time. -/
  updatedAt? : Option Timestamp
deriving DecidableEq

namespace JobRow

/-- The job of a row, if its time stamps are readable. -/
def job? (r : JobRow) : Option Job :=
  match r.createdAt?, r.updatedAt? with
  | some createdAt, some updatedAt =>
    some ⟨r.id, r.caseId, r.evidenceId, r.moduleName, r.status, r.error, r.serverToken,
      r.workerToken, createdAt, updatedAt⟩
  | _, _ => none

/-- The job of a row, or the store's complaint. -/
def read (r : JobRow) : Except Error Job :=
  match r.job? with
  | some j => .ok j
  | none => .error (.store "error occurred while decoding a column: invalid datetime")

/-- The row of a new job. -/
def scheduled (id : JobId) (caseId evidenceId moduleName : String) (server : InstanceToken)
    (now : Timestamp) : JobRow :=
  ⟨id, caseId, evidenceId, moduleName, .scheduled, "", server, "", some now, some now⟩

/-- The row waits for a worker that runs one of the modules. -/
def isClaimable (modules : List String) (r : JobRow) : Bool :=
  r.status == .scheduled && modules.contains r.moduleName

/-- The row taken by a worker's stream of a server. -/
def claimed (worker : WorkerToken) (server : InstanceToken) (now : Timestamp) (r : JobRow) :
    JobRow :=
  { r with status := .running, workerToken := worker, serverToken := server,
           updatedAt? := some now }

/-- The row of a finished job. -/
def finished (status : JobStatus) (error : String) (now : Timestamp) (r : JobRow) : JobRow :=
  { r with status := status, error := error, updatedAt? := some now }

/-- The row given back by a worker. -/
def released (now : Timestamp) (r : JobRow) : JobRow :=
  { r with status := .scheduled, workerToken := "", updatedAt? := some now }

/-- The row given back by a server that is gone, on behalf of another one. -/
def recovered (server : InstanceToken) (now : Timestamp) (r : JobRow) : JobRow :=
  { r with status := .scheduled, serverToken := server, workerToken := "",
           updatedAt? := some now }

/-- The row runs under a worker token. -/
def isHeldBy (worker : WorkerToken) (r : JobRow) : Bool :=
  r.workerToken == worker && r.status == .running

/-- The row runs under a server other than the given one. -/
def isStale (server : InstanceToken) (r : JobRow) : Bool :=
  r.serverToken != server && r.status == .running

end JobRow

/-- A row of the hook table. -/
structure HookRow where
  id : String
  trigger : String
  name : String
  module : String
  condition : String
  enabled : Bool
deriving DecidableEq

namespace HookRow

/-- The hook of a row; its trigger has to be one that exists. -/
def read (r : HookRow) : Except Error Hook :=
  match HookTrigger.parse r.trigger with
  | .ok t => .ok ⟨r.id, t, r.name, r.module, r.condition, r.enabled⟩
  | .error e => .error e

/-- The row of a hook. -/
def ofHook (h : Hook) : HookRow := ⟨h.id, h.trigger.name, h.name, h.module, h.condition, h.enabled⟩

end HookRow

/-! ## Rows of a table -/

/-- Changes the first row that satisfies `p`, and tells what it has become. -/
def changeFirst {α : Type} (p : α → Bool) (f : α → α) : List α → Option (α × List α)
  | [] => none
  | r :: rs =>
    if p r then some (f r, f r :: rs)
    else (changeFirst p f rs).map fun (x, rs) => (x, r :: rs)

/-- Changes every row that satisfies `p`. -/
def changeAll {α : Type} (p : α → Bool) (f : α → α) (rows : List α) : List α :=
  rows.map fun r => if p r then f r else r

/-- Reads every row, up to the first that cannot be read. -/
def readRows {α β : Type} (read : α → Except Error β) : List α → Except Error (List β)
  | [] => .ok []
  | r :: rs =>
    match read r with
    | .error e => .error e
    | .ok b =>
      match readRows read rs with
      | .error e => .error e
      | .ok bs => .ok (b :: bs)

/-- The first rows of a result: all of them for a negative limit. -/
def takeLimit {α : Type} (limit : Int) (rows : List α) : List α :=
  if limit < 0 then rows else rows.take limit.toNat

end Casework
