/-
# The command line

Reads what a run of the program needs from the machine, runs it, prints, and leaves its stores in
their files. This program itself opens no connections and starts no other programs: a machine
that could do so would be put together here.
-/

import Casework.Cli.Program
import Casework.Store.Snapshot
import Std.Time.DateTime

namespace Casework
namespace Cli

/-- The variables that the program looks at. -/
def variableNames : List String :=
  ["API_KEY", "BIND_ADDR", "DATABASE_URL", "EVIDENCE_DIR", "KEEPALIVE_INTERVAL_SECS", "LOG_LEVEL",
    "OTEL_ENDPOINT", "POLL_INTERVAL_MS", "RECONNECT_DELAY_SECS", "SERVER_URL", "SKIP_VERIFY_TLS",
    "TOOLS_CONFIG", "WORKER_CONCURRENCY"]

/-- The path of a place. -/
def pathOf (p : Place) : String := "/" ++ Text.joinWith "/" p

/-- The text of a file, if there is one that can be read. -/
def readText? (path : String) : IO (Option String) := do
  try return some (← IO.FS.readFile path) catch _ => return none

/-- The directory is there. -/
def isDirectory (path : String) : IO Bool := do
  try
    (← IO.FS.realPath path).isDir
  catch _ => return false

/-- The tree with what stands at a path. -/
def addPath (t : FileTree) (path : String) : IO FileTree := do
  let parts := (pathComponents path.toList).map String.ofList
  let p := if path.toList.head? = some '/' then parts else t.home ++ parts
  let t ← if ← isDirectory (pathOf p.dropLast) then pure (t.makeDirectory p.dropLast) else pure t
  match ← readText? (pathOf p) with
  | some s => return t.write (pathOf p) s
  | none => return t

/-- The part of an argument that may name a file. -/
def namedFile (arg : String) : String :=
  match shapeOf arg with
  | .long _ (some value) => value
  | _ => arg

/-- The machine as far as a run on these arguments can look at it. -/
def observe (args : List String) : IO Machine := do
  let home := (pathComponents (toString (← IO.currentDir)).toList).map String.ofList
  let environment ← variableNames.filterMapM fun name => do
    return (← IO.getEnv name).map fun value => (name, value)
  let seed := (← IO.getRandomBytes 8).toList.foldl (fun n b => n * 256 + b.toNat) 0
  let now := (← Std.Time.Timestamp.now).toNanosecondsSinceUnixEpoch.val
  let supply := Supply.seeded seed (Timestamp.epoch.later now.toNat)
  let above := (List.range (home.length + 1)).map fun n => pathOf (home.take n ++ [".env"])
  let files ← above.foldlM addPath (({ home := home } : FileTree).makeDirectory home)
  let named := args.map namedFile ++ ["tools.toml"] ++
    ((Dotenv.load files environment).get? "TOOLS_CONFIG").toList
  let files ← named.foldlM addPath files
  let refused := "Function not implemented (os error 38)"
  return {
    host := { files := files, launch := fun _ _ => .error refused, supply := supply }
    environment := environment
    bind := fun _ => .error refused }

/-- The machine with the store that the environment names. A file that holds something else stays
an ordinary file. -/
def openStores (m : Machine) : IO Machine := do
  let address := ((Dotenv.load m.host.files m.environment).get? "DATABASE_URL").getD ""
  match StoreLocation.parse address with
  | .ok (.file path) =>
    let m := { m with host := { m.host with files := ← addPath m.host.files path } }
    match m.host.files.place path, m.host.files.read path with
    | .ok p, .ok text =>
      match Store.ofSnapshot? m.host.supply text with
      | some s =>
        let files := m.host.files.eraseFile p
        return { m with stores := [(p, s)], host := { m.host with files := files } }
      | none => return m
    | _, _ => return m
  | _ => return m

end Cli
end Casework

open Casework Casework.Cli in
/-- Runs the program on its arguments. -/
def main (args : List String) : IO UInt32 := do
  let m ← openStores (← observe args)
  let (outcome, m) := Cli.run m args
  (← IO.getStdout).putStr outcome.output
  (← IO.getStderr).putStr outcome.complaint
  for (p, s) in m.stores do
    IO.FS.writeFile (pathOf p) s.snapshot
  return UInt32.ofNat outcome.exitCode
