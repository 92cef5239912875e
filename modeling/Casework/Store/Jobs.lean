/-
# Jobs in the store

`enqueue` adds a job, `claimNext` hands the oldest waiting one to a worker's stream, `ack`
finishes a running one, and the two releases put running ones back into the queue. Each of them
changes rows by one rule of `JobRow`, guarded by the row's status, so that a job goes from
waiting to running and from there to its end or back, and nothing else.
-/

import Casework.Store.Basic
import Casework.Module.Name

namespace Casework
namespace Store

open Text

/-- The job of an id. -/
def getJob (id : JobId) : StoreM Job := do
  let rows ← jobRows
  match rows.find? fun r => r.id == id with
  | some r => r.read
  | none => throw (.notFound ("job " ++ id))

/-- What the store says when a job's id is taken. -/
def takenId : Error :=
  .store "error returned from database: (code: 1555) UNIQUE constraint failed: jobs.id"

/-- Adds a waiting job; equal jobs are not merged. -/
def enqueue (server : InstanceToken) (caseId evidenceId moduleName : String) : StoreM Job := do
  checkModuleName moduleName
  let id ← freshIdent
  let t ← now
  let rows ← jobRows
  if rows.any fun r => r.id == id then throw takenId
  putJobs (rows ++ [JobRow.scheduled id caseId evidenceId moduleName server t])
  getJob id

/-- Hands the oldest waiting job whose module is in the list to a worker's stream. -/
def claimNext (server : InstanceToken) (worker : WorkerToken) (modules : List String) :
    StoreM (Option Job) := do
  checkModuleNames modules
  if modules.isEmpty then return none
  let t ← now
  let rows ← jobRows
  match changeFirst (JobRow.isClaimable modules) (JobRow.claimed worker server t) rows with
  | none => return none
  | some (r, rows) =>
    putJobs rows
    return some (← r.read)

/-- Finishes a running job; tells whether there was one to finish. A success clears the error. -/
def ack (id : JobId) (status : JobStatus) (error : String) : StoreM Bool := do
  if !status.isTerminal then
    throw (.validation ("ack status must be Success or Failed, got " ++ status.name))
  let error := if status = .success then "" else error
  let t ← now
  let rows ← jobRows
  let due (r : JobRow) := r.id == id && r.status == .running
  putJobs (changeAll due (JobRow.finished status error t) rows)
  return rows.any due

/-- Puts the jobs that run under a worker token back into the queue; tells how many. -/
def releaseWorkerJobs (worker : WorkerToken) : StoreM Nat := do
  let t ← now
  let rows ← jobRows
  putJobs (changeAll (JobRow.isHeldBy worker) (JobRow.released t) rows)
  return rows.countP (JobRow.isHeldBy worker)

/-- Puts the jobs that run under other servers back into the queue; tells how many. -/
def releaseStaleJobs (server : InstanceToken) : StoreM Nat := do
  let t ← now
  let rows ← jobRows
  putJobs (changeAll (JobRow.isStale server) (JobRow.recovered server t) rows)
  return rows.countP (JobRow.isStale server)

/-- The jobs on an item of evidence, the oldest first. -/
def listJobs (evidenceId : String) : StoreM (List Job) := do
  let rows ← jobRows
  readRows JobRow.read (rows.filter fun r => r.evidenceId == evidenceId)

/-- The jobs of a status, or all, the oldest first, as many as the limit allows. -/
def listJobsByStatus (status? : Option JobStatus) (limit : Int) : StoreM (List Job) := do
  let rows ← jobRows
  readRows JobRow.read (takeLimit limit (rows.filter fun r => status?.all (· == r.status)))

/-- A hexadecimal digit of either case. -/
def isHexDigit (c : Char) : Bool := (hexValue? c).isSome

/-- The jobs whose id begins with some hexadecimal digits, as many as the limit allows. -/
def findJobs (front : String) (limit : Int) : StoreM (List Job) := do
  if front == "" || !front.toList.all isHexDigit then
    throw (.validation ("invalid job id prefix: " ++ quote front))
  let rows ← jobRows
  readRows JobRow.read
    (takeLimit limit (rows.filter fun r => front.toList.isPrefixOf r.id.toList))

end Store
end Casework
