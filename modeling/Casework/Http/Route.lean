/-
# Routes

| path | method | what it does |
| --- | --- | --- |
| `/health` | GET | tells that the server answers; needs no key |
| `/internal/jobs` | GET | opens a worker's stream |
| `/internal/jobs/ack` | POST | takes a worker's report |
| `/internal/workers` | GET | lists the sessions |
| `/api/jobs` | POST | queues a job |
| `/api/jobs/{id}` | GET | shows a job |
| `/api/cases/{cid}/evidences` | POST | registers evidence |
| `/api/cases/{cid}/evidences/{eid}/modules` | GET | modules that apply |
| `/api/cases/{cid}/evidences/{eid}/jobs` | GET | jobs on an item |

A parameter is one part of the path between slashes that is not empty; it is percent-decoded and
has to be UTF-8 then. Where GET is allowed, HEAD is too and gets the response without its body.
-/

import Casework.Http.ApiError

namespace Casework
namespace Http

open Text

/-- A route with its parameters as sent. -/
inductive Route where
  | health
  | jobStream
  | ack
  | workers
  | pushJob
  | job (id : List Char)
  | registerEvidence (cid : List Char)
  | runnableModules (cid eid : List Char)
  | evidenceJobs (cid eid : List Char)
deriving DecidableEq, Repr

namespace Route

/-- The parts of a path that begins with a slash. -/
def segments (path : List Char) : Option (List (List Char)) :=
  match path with
  | '/' :: rest => some (splitChars '/' rest)
  | _ => none

/-- The route of a path, if there is one. -/
def ofPath? (path : List Char) : Option Route :=
  match segments path with
  | none => none
  | some parts =>
    if parts.any List.isEmpty then none
    else
      match parts, parts.map String.ofList with
      | _, ["health"] => some .health
      | _, ["internal", "jobs"] => some .jobStream
      | _, ["internal", "jobs", "ack"] => some .ack
      | _, ["internal", "workers"] => some .workers
      | _, ["api", "jobs"] => some .pushJob
      | [_, _, id], ["api", "jobs", _] => some (.job id)
      | [_, _, cid, _], ["api", "cases", _, "evidences"] => some (.registerEvidence cid)
      | [_, _, cid, _, eid, _], ["api", "cases", _, "evidences", _, "modules"] =>
        some (.runnableModules cid eid)
      | [_, _, cid, _, eid, _], ["api", "cases", _, "evidences", _, "jobs"] =>
        some (.evidenceJobs cid eid)
      | _, _ => none

/-- The route is taken by POST, and otherwise by GET. -/
def isPost : Route → Bool
  | .ack => true
  | .pushJob => true
  | .registerEvidence _ => true
  | _ => false

/-- The methods that the route allows, as the header lists them. -/
def allow (r : Route) : String := if r.isPost then "POST" else "GET,HEAD"

/-- The route allows a method. -/
def allows (r : Route) (method : String) : Bool :=
  if r.isPost then method == "POST" else method == "GET" || method == "HEAD"

/-- The route needs the key. -/
def isProtected : Route → Bool
  | .health => false
  | _ => true

/-- A parameter, percent-decoded. -/
def parameter? (value : List Char) : Option String :=
  decode? (percentDecode (encodeChars value))

/-- The response to a parameter that is not UTF-8. -/
def badParameter (name : String) : Response :=
  { status := 400, contentType? := some "text/plain; charset=utf-8",
    body := .text ("Invalid URL: Invalid UTF-8 in `" ++ name ++ "`") }

end Route

/-- What a worker declares by the query of its request. -/
def connectParams (query : String) : Except ApiError ConnectParams :=
  go (formPairs query) none none
where
  /-- Takes one pair after the other. -/
  go : List (String × String) → Option String → Option UInt64 → Except ApiError ConnectParams
    | [], modules, workers => .ok ⟨modules.getD "", workers.getD 0⟩
    | (name, value) :: pairs, modules, workers =>
      if name = "modules" then
        if modules.isSome then .error (.query "duplicate field `modules`")
        else go pairs (some value) workers
      else if name = "workers" then
        if workers.isSome then .error (.query "duplicate field `workers`")
        else
          match readUnsigned maxU64 value with
          | .ok n => go pairs modules (some (UInt64.ofNat n))
          | .error e => .error (.query ("workers: " ++ e.message))
      else go pairs modules workers

/-- The value that the body of a request holds. That bodies of more than two MiB are refused before
that, with 413, is left out: a request stands for one that keeps within this limit. -/
def bodyOf {α : Type} [Wire α] (now : Timestamp) (r : Request) : Except ApiError α :=
  match (r.header? "content-type").bind headerText? with
  | none => .error (.body .notJson)
  | some value =>
    if !isJsonType value then .error (.body .notJson)
    else
      match Wire.parse now r.body with
      | .ok a => .ok a
      | .error .malformed => .error (.body .malformed)
      | .error (.mismatch path cause) =>
        .error (.body (.mismatch (if path.isEmpty then cause
          else Json.pathText path ++ ": " ++ cause)))

end Http
end Casework
