/-
# Job status

A job is `Scheduled`, then `Running`, and ends as `Success` or `Failed`.
-/

import Casework.Error
import Casework.Json.Codec

namespace Casework

/-- Where a job stands. -/
inductive JobStatus where
  | scheduled
  | running
  | failed
  | success
deriving DecidableEq, Repr

namespace JobStatus

/-- Every status. -/
def all : List JobStatus := [.scheduled, .running, .failed, .success]

/-- The name of a status. -/
def name : JobStatus → String
  | .scheduled => "Scheduled"
  | .running => "Running"
  | .failed => "Failed"
  | .success => "Success"

/-- The job is over. -/
def isTerminal : JobStatus → Bool
  | .failed => true
  | .success => true
  | _ => false

/-- The status of a name. -/
def ofName? (s : String) : Option JobStatus := all.find? fun status => status.name == s

/-- The status of a name, or the error that refuses it. -/
def parse (s : String) : Except Error JobStatus :=
  match ofName? s with
  | some status => .ok status
  | none => .error (.validation ("unknown job status: " ++ s))

instance : Wire JobStatus where
  codec := .choice (all.map name)
  toDatum s := .text s.name
  ofDatum?
    | .text s => ofName? s
    | _ => none

end JobStatus
end Casework
