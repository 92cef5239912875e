/-
# The worker's requests

A client sends requests to one server: open the job stream, report on a job, register an
artifact, queue a module run. Every request carries the client's key in `X-API-Key`. A key with
a control character cannot be sent; blanks at the ends of a header value do not arrive.

What becomes of a request is up to the `Network`. An answer with a status from 400 on is a
failure that keeps the status.
-/

import Casework.Error
import Casework.Http.Message
import Casework.Job.Stream
import Casework.Net.Url

namespace Casework

open Text

/-- The answer to a request. -/
structure Reply where
  status : Nat
  /-- The body as it arrives. -/
  chunks : List (List UInt8)
  /-- The connection breaks after the last chunk. -/
  broken : Bool := false
deriving DecidableEq, Repr

/-- What becomes of requests: an answer, or none, with `σ` for all that lies behind. -/
abbrev Network (σ : Type) := Http.Request → σ → Option Reply × σ

/-- A network on which no request is answered. -/
def Network.unreachable {σ : Type} : Network σ := fun _ s => (none, s)

/-- The way to a server. -/
structure Client where
  /-- Scheme, host, and what comes before the routes, without a slash at its end. -/
  baseUrl : String
  apiKey? : Option String
deriving DecidableEq, Repr

namespace Client

/-- The client for a server's address. -/
def ofAddress (address : String) (apiKey? : Option String) : Client :=
  ⟨String.ofList (address.toList.reverse.dropWhile (· == '/')).reverse, apiKey?⟩

/-- The blanks that are dropped around a header value. -/
def isHeaderBlank (c : Char) : Bool := c == ' ' || c == '\t'

/-- A header value as it arrives, `none` if it cannot be sent. -/
def headerValue? (s : String) : Option String :=
  let cs := s.toList
  if cs.all Http.isHeaderChar then
    some (String.ofList ((cs.dropWhile isHeaderBlank).reverse.dropWhile isHeaderBlank).reverse)
  else none

/-- The header with the key, nothing without a key; `none` if the key cannot be sent. -/
def keyHeader? (c : Client) : Option (List (String × String)) :=
  match c.apiKey? with
  | none => some []
  | some key => (headerValue? key).map fun value => [("x-api-key", value)]

/-- A request to a route of the server, `none` if it cannot be put together. -/
def request? (c : Client) (method route : String) (pairs : List (String × String))
    (headers : List (String × String)) (body : String) : Option Http.Request :=
  match Net.Url.parse? (c.baseUrl ++ route), c.keyHeader? with
  | some url, some key =>
    let url := if pairs.isEmpty then url else url.addPairs pairs
    some { method := method, target := url.target, headers := key ++ headers, body := body }
  | _, _ => none

/-- A request that carries JSON. -/
def jsonRequest? {α : Type} [Wire α] (c : Client) (route : String) (a : α) : Option Http.Request :=
  c.request? "POST" route []
    [("accept", "*/*"), ("content-type", "application/json")] (Wire.render a)

/-- The request that opens the job stream for modules. -/
def streamRequest? (c : Client) (modules : List String) (workers : UInt64) :
    Option Http.Request :=
  let params := ConnectParams.ofModules modules workers
  c.request? "GET" "/internal/jobs"
    [("modules", params.modules), ("workers", toString params.workers)]
    [("accept", "application/x-ndjson")] ""

/-- The request that reports on a job. -/
def ackRequest? (c : Client) (report : AckRequest) : Option Http.Request :=
  c.jsonRequest? "/internal/jobs/ack" report

/-- The request that registers an artifact. -/
def evidenceRequest? (c : Client) (e : Evidence) : Option Http.Request :=
  c.jsonRequest? ("/api/cases/" ++ e.caseId ++ "/evidences") e

/-- The request that queues a module run. -/
def pushRequest? (c : Client) (wish : PushJobRequest) : Option Http.Request :=
  c.jsonRequest? "/api/jobs" wish

end Client

/-! ## Answers -/

namespace Reply

/-- The whole body as a text. -/
def text (r : Reply) : Except Error String :=
  if r.broken then .error (.request .body)
  else
    match decode? r.chunks.flatten with
    | some s => .ok s
    | none => .error (.request .decode)

/-- The value that the body holds. -/
def value (α : Type) [Wire α] (now : Timestamp) (r : Reply) : Except Error α :=
  match r.text with
  | .error e => .error e
  | .ok s =>
    match Wire.parse now s with
    | .ok a => .ok a
    | .error _ => .error (.request .decode)

/-- The text of the last member of a name among those of an object whose brace was taken. -/
def lastMember? (name : String) : Nat → List Char → Option (List Char) → Option (List Char)
  | 0, _, found => found
  | fuel + 1, cs, found =>
    match Json.skipSpace cs with
    | ',' :: rest => lastMember? name fuel rest found
    | '"' :: rest =>
      match Json.textBody rest with
      | .error _ => found
      | .ok (key, rest) =>
        let value := Json.skipSpace ((Json.skipSpace rest).drop 1)
        match Json.skipAny value with
        | .error _ => found
        | .ok rest => lastMember? name fuel rest (if key == name then some value else found)
    | _ => found

/-- The body is an object whose member of the name is `true`. -/
def flag (name : String) (r : Reply) : Except Error Bool :=
  match r.text with
  | .error e => .error e
  | .ok s =>
    match Json.passValue s.toList with
    | .error _ => .error (.request .decode)
    | .ok rest =>
      if !(Json.skipSpace rest).isEmpty then .error (.request .decode)
      else
        match Json.skipSpace s.toList with
        | '\x7b' :: rest =>
          .ok ((lastMember? name (rest.length + 1) rest none).any fun v => v.head? == some 't')
        | _ => .ok false

end Reply

namespace Client

variable {σ : Type}

/-- Sends a request and waits for its answer. -/
def send (net : Network σ) (r? : Option Http.Request) (s : σ) : Except Error Reply × σ :=
  match r? with
  | none => (.error (.request .unanswered), s)
  | some r =>
    match net r s with
    | (none, s) => (.error (.request .unanswered), s)
    | (some reply, s) =>
      if 400 ≤ reply.status ∧ reply.status < 600 then
        (.error (.request (.status reply.status)), s)
      else (.ok reply, s)

/-- Opens the job stream. -/
def openStream (net : Network σ) (c : Client) (modules : List String) (workers : UInt64) (s : σ) :
    Except Error JobStream × σ :=
  match send net (c.streamRequest? modules workers) s with
  | (.error e, s) => (.error e, s)
  | (.ok reply, s) => (.ok ⟨[], reply.chunks, reply.broken⟩, s)

/-- Reports on a job; tells whether the server took the report. -/
def ack (net : Network σ) (c : Client) (report : AckRequest) (s : σ) : Except Error Bool × σ :=
  match send net (c.ackRequest? report) s with
  | (.error e, s) => (.error e, s)
  | (.ok reply, s) => (reply.flag "applied", s)

/-- Registers an artifact. -/
def registerEvidence (net : Network σ) (c : Client) (e : Evidence) (s : σ) :
    Except Error Unit × σ :=
  match send net (c.evidenceRequest? e) s with
  | (.error e, s) => (.error e, s)
  | (.ok _, s) => (.ok (), s)

/-- Queues a module run. -/
def pushJob (net : Network σ) (c : Client) (now : Timestamp) (wish : PushJobRequest) (s : σ) :
    Except Error Job × σ :=
  match send net (c.pushRequest? wish) s with
  | (.error e, s) => (.error e, s)
  | (.ok reply, s) => (reply.value Job now, s)

end Client
end Casework
