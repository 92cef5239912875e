/-
# Requests to the servers of a cluster

A request goes to one server's router. A stream that it opens joins the streams of the cluster.
-/

import Casework.Dispatch.Cluster
import Casework.Http.Router

namespace Casework
namespace Cluster

/-- Answers a request at the server at a place; `none` if there is no dispatcher. -/
def serve (c : Cluster) (i : Nat) (apiKey? : Option String) (remote : String) (r : Http.Request) :
    Option (Http.Response × List StreamEvent × Cluster) :=
  (c.server? i).map fun s =>
    let (response, events, s) := Http.serve s apiKey? c.clock remote r
    let c := c.putServer i s
    match response.body with
    | .stream token => (response, events, c.noteOpened i token)
    | _ => (response, events, c)

end Cluster
end Casework
