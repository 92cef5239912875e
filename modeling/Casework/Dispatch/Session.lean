/-
# Sessions of connected workers

A session is on record as long as the worker's stream is open. Sessions are keyed by their
token and listed with the oldest connection first.
-/

import Casework.Job.Message

namespace Casework

/-- One open stream of a worker. -/
structure WorkerSession where
  workerToken : WorkerToken
  remoteAddress : String
  supportedModules : List String
  /-- How many jobs the worker says it runs at once; nothing depends on it. -/
  concurrency : UInt64
  connectedAt : Timestamp
deriving DecidableEq

namespace WorkerSession

/-- The session as JSON. -/
def toJson (s : WorkerSession) : Json :=
  .object [("workerToken", .text s.workerToken), ("remoteAddress", .text s.remoteAddress),
    ("supportedModules", .array (s.supportedModules.map .text)),
    ("concurrency", .number s.concurrency.toNat), ("connectedAt", .text s.connectedAt.text)]

end WorkerSession

/-- The sessions on record, each token once. -/
structure Sessions where
  entries : List WorkerSession := []

namespace Sessions

/-- The sessions other than that of a token. -/
def without (s : Sessions) (token : WorkerToken) : Sessions :=
  ⟨s.entries.filter fun e => e.workerToken != token⟩

/-- The session of a token. -/
def find? (s : Sessions) (token : WorkerToken) : Option WorkerSession :=
  s.entries.find? fun e => e.workerToken == token

/-- Records a session; one with the same token makes way. -/
def insert (s : Sessions) (e : WorkerSession) : Sessions :=
  ⟨(s.without e.workerToken).entries ++ [e]⟩

/-- Forgets a session and tells which it was. -/
def remove (s : Sessions) (token : WorkerToken) : Option WorkerSession × Sessions :=
  (s.find? token, s.without token)

/-- The sessions, the oldest connection first. -/
def list (s : Sessions) : List WorkerSession :=
  s.entries.mergeSort fun a b => a.connectedAt.le b.connectedAt

end Sessions
end Casework
