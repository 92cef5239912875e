/-
# The router

A request is answered in this order: an unknown path is not found; a protected route wants the
key; the method has to be allowed; then the parameters, the query and the body are read, and the
dispatcher is asked. Nothing of a request is looked at before the key is accepted, except its
path and method.
-/

import Casework.Dispatch.Connection
import Casework.Http.Route

namespace Casework
namespace Http

open Text

/-- The outcome of a request: the response, what happened on the streams, and the server. -/
abbrev Outcome := Response × List StreamEvent × Server

/-- The request carries the key that the server wants, if it wants one. -/
def isAuthorized (apiKey? : Option String) (r : Request) : Bool :=
  match apiKey? with
  | none => true
  | some key => (r.header? "x-api-key").bind headerText? == some key

/-- The response to the result of an operation. -/
def respond {α : Type} (success : α → Response) : Except Error α → Response
  | .ok a => success a
  | .error e => (ApiError.core e).response

/-- Answers with an operation of the store. -/
def answer {α : Type} (s : Server) (op : StoreM α) (success : α → Response) : Outcome :=
  match s.onStore op with
  | (result, s) => (respond success result, [], s)

/-- Answers with an operation that the body is for. -/
def answerBody {α β : Type} [Wire α] (s : Server) (r : Request)
    (op : α → Except Error (StoreM β)) (success : α → β → Response) : Outcome :=
  let (now, supply) := s.store.supply.now
  let s : Server := { s with store := { s.store with supply := supply } }
  match bodyOf now r with
  | .error e => (e.response, [], s)
  | .ok a =>
    match op a with
    | .error e => ((ApiError.core e).response, [], s)
    | .ok op => answer s op (success a)

/-- Opens a worker's stream. -/
def openStream (s : Server) (now : Nat) (remote : String) (r : Request) : Outcome :=
  match connectParams r.query with
  | .error e => (e.response, [], s)
  | .ok params =>
    match s.connect now params remote with
    | (.error e, events, s) => ((ApiError.core e).response, events, s)
    | (.ok token, events, s) =>
      ({ status := 200, contentType? := some "application/x-ndjson",
         cacheControl? := some "no-cache", body := .stream token }, events, s)

/-- Registers evidence under the case of the path. -/
def registerEvidence (s : Server) (caseId : String) (r : Request) : Outcome :=
  answerBody s r
    (fun e : Evidence =>
      if e.caseId = caseId then .ok (s.dispatcher.registerEvidence e)
      else .error (.validation ("evidence belongs to case " ++ quote e.caseId ++ ", not " ++
        quote caseId)))
    fun e jobs => jsonResponse 201 (.object [("evidence", Wire.toJson e), ("jobs", listJson jobs)])

/-- Answers a request on a route by its handler. -/
def dispatch (s : Server) (now : Nat) (remote : String) (r : Request) : Route → Outcome
  | .health => answer s Store.health fun _ => jsonResponse 200 (.object [("status", .text "ok")])
  | .jobStream => openStream s now remote r
  | .ack =>
    answerBody s r (fun report => .ok (Dispatcher.ack report)) fun _ applied =>
      jsonResponse 200 (.object [("applied", .bool applied)])
  | .workers =>
    (jsonResponse 200 (.array (s.dispatcher.sessions.list.map WorkerSession.toJson)), [], s)
  | .pushJob =>
    answerBody s r (fun request => .ok (s.dispatcher.pushJob request)) fun _ job =>
      jsonResponse 201 (Wire.toJson job)
  | .job id =>
    match Route.parameter? id with
    | none => (Route.badParameter "id", [], s)
    | some id => answer s (Store.getJob id) fun job => jsonResponse 200 (Wire.toJson job)
  | .registerEvidence cid =>
    match Route.parameter? cid with
    | none => (Route.badParameter "cid", [], s)
    | some cid => registerEvidence s cid r
  | .runnableModules cid eid =>
    match Route.parameter? cid, Route.parameter? eid with
    | none, _ => (Route.badParameter "cid", [], s)
    | some _, none => (Route.badParameter "eid", [], s)
    | some cid, some eid =>
      answer s (s.dispatcher.runnableModules cid eid) fun runs => jsonResponse 200 (listJson runs)
  | .evidenceJobs cid eid =>
    match Route.parameter? cid, Route.parameter? eid with
    | none, _ => (Route.badParameter "cid", [], s)
    | some _, none => (Route.badParameter "eid", [], s)
    | some cid, some eid =>
      answer s (Dispatcher.evidenceJobs cid eid) fun jobs => jsonResponse 200 (listJson jobs)

/-- The outcome of a HEAD request: the response goes without its body, and a stream with it. -/
def headless (o : Outcome) : Outcome :=
  let (response, events, s) := o
  match response.body with
  | .stream token => ({ response with body := .empty }, events, s.disconnect token)
  | _ => ({ response with body := .empty }, events, s)

/-- Answers a request on a route. -/
def serveRoute (s : Server) (apiKey? : Option String) (now : Nat) (remote : String) (r : Request)
    (route : Route) : Outcome :=
  let allow? := if route.allows r.method then none else some route.allow
  if route.isProtected && !isAuthorized apiKey? r then
    ({ ApiError.unauthorized.response with allow? := allow? }, [], s)
  else
    match allow? with
    | some allow => ({ status := 405, allow? := some allow }, [], s)
    | none => dispatch s now remote r route

/-- Answers a request. -/
def serve (s : Server) (apiKey? : Option String) (now : Nat) (remote : String) (r : Request) :
    Outcome :=
  match Route.ofPath? r.path with
  | none => ({ status := 404 }, [], s)
  | some route =>
    let o := serveRoute s apiKey? now remote r route
    if r.method == "HEAD" then headless o else o

end Http
end Casework
