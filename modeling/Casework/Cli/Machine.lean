/-
# The machine that the program runs on

Besides its files and programs a machine has environment variables, the stores that are kept in
files, and a network. Programs run one after the other, and each one leaves the machine to the
next.
-/

import Casework.Config.Environment
import Casework.Dispatch.Dispatcher
import Casework.Store.Location
import Casework.Worker.Basic

namespace Casework
namespace Cli

/-- A machine. -/
structure Machine where
  host : Host
  environment : Environment := []
  /-- The stores in files, by the place of the file. -/
  stores : List (Place × Store) := []
  /-- Whether an address can be listened on, or the cause why not. -/
  bind : SocketAddress → Except String Unit
  /-- What becomes of the requests that are sent to other machines. -/
  network : Network Unit := Network.unreachable
  /-- How many connections a worker tries before someone stops it. -/
  patience : Nat := 1

namespace Machine

/-- What the store says when its file cannot be opened. -/
def cannotOpen : Error :=
  .store "error returned from database: (code: 14) unable to open database file"

/-- What the store says when its file holds something else. -/
def notStore : Error := .store "error returned from database: (code: 26) file is not a database"

/-- The place of the file that a path names, if a store can be there. -/
def storePlace (m : Machine) (path : String) : Except Error Place :=
  if path.toList.getLast? = some '/' then .error cannotOpen
  else
    match m.host.files.place path with
    | .error _ => .error cannotOpen
    | .ok p =>
      match m.host.files.entryAt? p with
      | some .directory => .error cannotOpen
      | some (.file content) => if content == "" then .ok p else .error notStore
      | none => .ok p

/-- The place of the store that an address names, `none` for one in memory. -/
def locate (m : Machine) (address : String) : Except Error (Option Place) :=
  match StoreLocation.parse address with
  | .error e => .error e
  | .ok .memory => .ok none
  | .ok (.file path) => (m.storePlace path).map some

/-- The store at a place; a new one is empty. -/
def storeAt (m : Machine) (place? : Option Place) : Store :=
  let found := place?.bind fun p => (m.stores.find? fun s => s.1 == p).map Prod.snd
  { found.getD { supply := m.host.supply } with supply := m.host.supply }

/-- Leaves a store at a place. -/
def putStore (m : Machine) (place? : Option Place) (s : Store) : Machine :=
  let stores := match place? with
    | some p => m.stores.filter (fun old => old.1 != p) ++ [(p, s)]
    | none => m.stores
  { m with stores := stores, host := { m.host with supply := s.supply } }

/-- A fresh identifier. -/
def freshIdent (m : Machine) : String × Machine :=
  let (id, supply) := m.host.supply.next
  (id, { m with host := { m.host with supply := supply } })

/-- Works on the store at a place. -/
def onStore {α : Type} (m : Machine) (place? : Option Place) (op : StoreM α) :
    Except Error α × Machine :=
  match op (m.storeAt place?) with
  | (result, s) => (result, m.putStore place? s)

end Machine
end Cli
end Casework
