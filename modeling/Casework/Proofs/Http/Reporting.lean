/-
# The way of a report to its job

A worker that has come to the end of a job sends the report as a request, and the server that it
reaches applies it to the store.

| step | outcome |
| --- | --- |
| the client puts the request together | POST, the report as JSON (`Client.Posts`) |
| the server reads it | the same report |
| the handler asks the dispatcher | the job ends as the report says, if it still runs |

The last step is an action among those that go on at a server.  So serving the request is that
action, after a look at the clock that a body with times would need (`serve_ackRequest`).
-/

import Casework.Proofs.Dispatch.Steps
import Casework.Proofs.Http.Registration
import Casework.Proofs.Job.Records
import Casework.Proofs.Worker.Outcomes

namespace Casework

/-- The server after a look at the clock. -/
def Server.glanced (s : Server) : Server :=
  { s with store := { s.store with supply := s.store.supply.now.2 } }

variable {client : Client} {report : AckRequest} {r : Http.Request}

/-- **A report is applied as it was sent.** On the route for reports, at a server that takes its
key, the request is the dispatcher's action on the report. -/
theorem Http.serve_ackRequest (request : client.ackRequest? report = some r)
    (routed : Http.Route.ofPath? r.path = some .ack) {key? : Option String}
    (accepted : Http.isAuthorized key? r = true) (s : Server) (now : ℕ) (remote : String) :
    Http.serve s key? now remote r =
      (Http.respond (fun applied => Http.jsonResponse 200 (.object [("applied", .bool applied)]))
        (Dispatcher.ack report s.glanced.store).1,
      Dispatch.act s.glanced (.request (.ack report))) := by
  obtain ⟨post, -, ⟨headers, keyed, sent⟩, carries⟩ := Client.jsonRequest?_eq_some_iff.1 request
  have read : Http.bodyOf s.store.supply.now.1 r = .ok report :=
    bodyOf_json (Client.named_of_keyHeader? keyed) sent (carries ▸
      (AckRequest.plain.roundTrips AckRequest.ofDatum?_toDatum).back s.store.supply.now.1 report)
  rw [serve_post routed post rfl accepted]
  simp only [Http.dispatch, Http.answerBody, read, Http.answer, Server.onStore, Dispatch.act,
    Dispatch.Statement.run, Store.run_map]
  rfl

end Casework
