/-
# Messages about jobs

What servers, workers and operators send each other: the descriptor that hands a job to a
worker, the report on its outcome, the wish to run a module, what a worker declares when it
connects, and the outcome of a module on an item of evidence.
-/

import Casework.Job.Basic
import Casework.Catalog.Record

namespace Casework

open Text

/-- The name that marks a descriptor as a sign of life. -/
def keepAliveName : String := "keep-alive"

/-- A line of a worker's stream: a job, or a sign of life. -/
structure JobDescriptor where
  id : JobId
  workerToken : WorkerToken
  name : String
  case? : Option Case
  evidence? : Option Evidence
deriving DecidableEq

/-- A report that a job is over. -/
structure AckRequest where
  id : JobId
  status : JobStatus
  error : String
deriving DecidableEq

/-- A wish to run a module on an item of evidence. -/
structure PushJobRequest where
  caseId : String
  evidenceId : String
  moduleName : String
deriving DecidableEq

/-- What a worker declares: its modules, separated by commas, and how many it runs at once. -/
structure ConnectParams where
  modules : String
  workers : UInt64
deriving DecidableEq

/-- A module that applies to an item of evidence, with the outcome of its latest job there. -/
structure ModuleRun where
  name : String
  description : String
  status? : Option JobStatus
  error : String
deriving DecidableEq

/-- An optional value as a datum. -/
def optionDatum {α : Type} [Wire α] : Option α → Json.Datum
  | none => .absent
  | some a => Wire.toDatum a

/-- The optional value of a datum. -/
def datumOption? {α : Type} [Wire α] : Json.Datum → Option (Option α)
  | .absent => some none
  | d => (Wire.ofDatum? d).map some

namespace JobDescriptor

/-- The sign of life on a worker's stream. -/
def keepAlive (worker : WorkerToken) : JobDescriptor := ⟨"", worker, keepAliveName, none, none⟩

/-- The line that hands a job to a worker. -/
def ofJob (job : Job) (worker : WorkerToken) (c : Case) (e : Evidence) : JobDescriptor :=
  ⟨job.id, worker, job.moduleName, some c, some e⟩

/-- A sign of life has the reserved name and no job. -/
def isKeepAlive (d : JobDescriptor) : Bool := d.name == keepAliveName && d.id == ""

instance : Wire JobDescriptor where
  codec := .record "JobDescriptor"
    [⟨"id", .text, .defaulted, false⟩, ⟨"workerToken", .text, .required, false⟩,
      ⟨"name", .text, .required, false⟩, ⟨"case", .optional (Wire.codec Case), .defaulted, true⟩,
      ⟨"evidence", .optional (Wire.codec Evidence), .defaulted, true⟩]
  toDatum d := .record [.text d.id, .text d.workerToken, .text d.name, optionDatum d.case?,
    optionDatum d.evidence?]
  ofDatum?
    | .record [.text id, .text workerToken, .text name, c, e] =>
      match datumOption? c, datumOption? e with
      | some c, some e => some ⟨id, workerToken, name, c, e⟩
      | _, _ => none
    | _ => none

end JobDescriptor

namespace AckRequest

/-- The report of a success. -/
def succeeded (id : JobId) : AckRequest := ⟨id, .success, ""⟩

/-- The report of a failure. -/
def failed (id : JobId) (error : String) : AckRequest := ⟨id, .failed, error⟩

instance : Wire AckRequest where
  codec := .record "AckRequest"
    [⟨"id", .text, .required, false⟩, ⟨"status", Wire.codec JobStatus, .required, false⟩,
      ⟨"error", .text, .defaulted, false⟩]
  toDatum a := .record [.text a.id, Wire.toDatum a.status, .text a.error]
  ofDatum?
    | .record [.text id, status, .text error] =>
      (Wire.ofDatum? status).map fun status => ⟨id, status, error⟩
    | _ => none

end AckRequest

namespace PushJobRequest

instance : Wire PushJobRequest where
  codec := .record "PushJobRequest"
    [⟨"caseId", .text, .required, false⟩, ⟨"evidenceId", .text, .required, false⟩,
      ⟨"moduleName", .text, .required, false⟩]
  toDatum p := .record [.text p.caseId, .text p.evidenceId, .text p.moduleName]
  ofDatum?
    | .record [.text caseId, .text evidenceId, .text moduleName] =>
      some ⟨caseId, evidenceId, moduleName⟩
    | _ => none

end PushJobRequest

namespace ConnectParams

/-- What a worker with these modules declares. -/
def ofModules (modules : List String) (workers : UInt64) : ConnectParams :=
  ⟨joinWith "," modules, workers⟩

/-- The declared module names: the pieces between commas, trimmed, blank ones left out. -/
def moduleNames (p : ConnectParams) : List String := commaPieces p.modules

instance : Wire ConnectParams where
  codec := .record "ConnectParams"
    [⟨"modules", .text, .defaulted, false⟩, ⟨"workers", .uint64, .defaulted, false⟩]
  toDatum p := .record [.text p.modules, .integer p.workers.toNat]
  ofDatum?
    | .record [.text modules, .integer workers] => some ⟨modules, UInt64.ofNat workers.toNat⟩
    | _ => none

end ConnectParams

namespace ModuleRun

instance : Wire ModuleRun where
  codec := .record "ModuleRun"
    [⟨"name", .text, .required, false⟩, ⟨"description", .text, .required, false⟩,
      ⟨"status", .optional (Wire.codec JobStatus), .nullable, false⟩,
      ⟨"error", .text, .required, false⟩]
  toDatum r := .record [.text r.name, .text r.description, optionDatum r.status?, .text r.error]
  ofDatum?
    | .record [.text name, .text description, status, .text error] =>
      (datumOption? status).map fun status => ⟨name, description, status, error⟩
    | _ => none

end ModuleRun
end Casework
