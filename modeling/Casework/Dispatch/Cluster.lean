/-
# Several servers on one store

Servers come and go on a store that stays. Each of them is a dispatcher with a token of its own;
one that could not be started has a token and no dispatcher. Time passes for all of them at
once, and the streams take their turns in the order in which they were opened.
-/

import Casework.Dispatch.Connection

namespace Casework

/-- A server of a cluster. -/
structure Member where
  token : InstanceToken
  /-- What it dispatches with, `none` if it could not be started. -/
  dispatcher? : Option Dispatcher

/-- A store with the servers on it, in the order in which they were started. -/
structure Cluster where
  store : Store
  members : List Member := []
  /-- The streams that were opened, with the place of their server, the oldest first. -/
  opened : List (Nat × WorkerToken) := []
  /-- Milliseconds since the beginning. -/
  clock : Nat := 0

namespace Cluster

/-- The server at a place. -/
def server? (c : Cluster) (i : Nat) : Option Server :=
  (c.members[i]?.bind Member.dispatcher?).map fun d => ⟨c.store, d⟩

/-- Puts a server back after it has done something. -/
def putServer (c : Cluster) (i : Nat) (s : Server) : Cluster :=
  { c with
    store := s.store
    members := c.members.set i ⟨s.dispatcher.token, some s.dispatcher⟩ }

/-- Lets the server at a place do something; `none` if there is no dispatcher. -/
def onServer {α : Type} (c : Cluster) (i : Nat) (f : Server → α × Server) : Option (α × Cluster) :=
  (c.server? i).map fun s =>
    let (a, s) := f s
    (a, c.putServer i s)

/-- An operation of the store. -/
def onStore {α : Type} (c : Cluster) (op : StoreM α) : Except Error α × Cluster :=
  match op c.store with
  | (result, store) => (result, { c with store := store })

/-- A dispatcher with these settings and a fresh token. -/
def newDispatcher (c : Cluster) (settings : Dispatcher) : Dispatcher × Cluster :=
  let (token, supply) := c.store.supply.next
  ({ settings with token := token }, { c with store := { c.store with supply := supply } })

/-- A further server that does nothing yet. -/
def addServer (c : Cluster) (settings : Dispatcher) : Cluster :=
  let (d, c) := c.newDispatcher settings
  { c with members := c.members ++ [⟨d.token, some d⟩] }

/-- A further server, started: it takes the jobs of earlier ones back. If that fails there is no
dispatcher. -/
def startServer (c : Cluster) (settings : Dispatcher) : Except Error Nat × Cluster :=
  let (d, c) := c.newDispatcher settings
  match Server.start ⟨c.store, d⟩ with
  | (.ok n, s) =>
    (.ok n, { c with store := s.store, members := c.members ++ [⟨d.token, some s.dispatcher⟩] })
  | (.error e, s) =>
    (.error e, { c with store := s.store, members := c.members ++ [⟨d.token, none⟩] })

/-- Notes that a stream was opened at a server. -/
def noteOpened (c : Cluster) (i : Nat) (token : WorkerToken) : Cluster :=
  { c with opened := c.opened ++ [(i, token)] }

/-- Opens a stream at the server at a place. -/
def connect (c : Cluster) (i : Nat) (params : ConnectParams) (remote : String) :
    Option (Except Error WorkerToken × List StreamEvent × Cluster) :=
  (c.server? i).map fun s =>
    match s.connect c.clock params remote with
    | (.ok token, events, s) => (.ok token, events, (c.putServer i s).noteOpened i token)
    | (.error e, events, s) => (.error e, events, c.putServer i s)

/-- The place of the server that serves a worker's stream. -/
def servingPlace? (c : Cluster) (token : WorkerToken) : Option Nat := do
  let (i, _) ← c.opened.find? fun o => o.2 == token
  let _ ← (← c.server? i).connection? token
  return i

/-- A worker goes away; `none` if no server has its stream. -/
def disconnect (c : Cluster) (token : WorkerToken) : Option Cluster := do
  let i ← c.servingPlace? token
  let s ← c.server? i
  return c.putServer i (s.disconnect token)

/-- The timers of one stream at the present moment. -/
def beatStream (c : Cluster) (i : Nat) (token : WorkerToken) : List StreamEvent × Cluster :=
  match c.server? i with
  | none => ([], c)
  | some s =>
    match s.connection? token with
    | none => ([], c)
    | some connection =>
      let (events, s) := s.beat c.clock connection
      (events, c.putServer i s)

/-- Time passes; then the timers of every stream are looked at. -/
def tick (c : Cluster) (milliseconds : Nat) : List StreamEvent × Cluster :=
  let c := { c with clock := c.clock + milliseconds }
  c.opened.foldl (fun (events, c) (i, token) =>
    let (more, c) := c.beatStream i token
    (events ++ more, c)) ([], c)

end Cluster
end Casework
