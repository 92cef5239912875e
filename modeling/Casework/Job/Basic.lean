/-
# Jobs

A job is one run of a module on an item of evidence. The worker token is that of the stream
that holds the job, empty while nobody does; the server token is that of the server that last
queued or claimed it.
-/

import Casework.Job.Status

namespace Casework

/-- The name of a job: 32 hexadecimal digits for those that the queue makes. -/
abbrev JobId := String

/-- The name of a worker's stream. -/
abbrev WorkerToken := String

/-- The name of a running server. -/
abbrev InstanceToken := String

/-- One scheduled run of a module. -/
structure Job where
  id : JobId
  caseId : String
  evidenceId : String
  moduleName : String
  status : JobStatus
  error : String
  serverToken : InstanceToken
  workerToken : WorkerToken
  createdAt : Timestamp
  updatedAt : Timestamp
deriving DecidableEq

namespace Job

/-- The fields of a job on the wire. -/
def fields : List Json.Field :=
  [⟨"id", .text, .required, false⟩, ⟨"caseId", .text, .required, false⟩,
    ⟨"evidenceId", .text, .required, false⟩, ⟨"moduleName", .text, .required, false⟩,
    ⟨"status", Wire.codec JobStatus, .required, false⟩, ⟨"error", .text, .required, false⟩,
    ⟨"serverInstanceToken", .text, .required, false⟩, ⟨"workerToken", .text, .required, false⟩,
    ⟨"createdAt", .instant, .required, false⟩, ⟨"updatedAt", .instant, .required, false⟩]

instance : Wire Job where
  codec := .record "Job" fields
  toDatum j := .record [.text j.id, .text j.caseId, .text j.evidenceId, .text j.moduleName,
    Wire.toDatum j.status, .text j.error, .text j.serverToken, .text j.workerToken,
    .instant j.createdAt, .instant j.updatedAt]
  ofDatum?
    | .record [.text id, .text caseId, .text evidenceId, .text moduleName, status, .text error,
        .text serverToken, .text workerToken, .instant createdAt, .instant updatedAt] =>
      (Wire.ofDatum? status).map fun status =>
        ⟨id, caseId, evidenceId, moduleName, status, error, serverToken, workerToken, createdAt,
          updatedAt⟩
    | _ => none

end Job

/-- A bare text on the wire, such as a job id. -/
instance : Wire String where
  codec := .text
  toDatum s := .text s
  ofDatum?
    | .text s => some s
    | _ => none

end Casework
