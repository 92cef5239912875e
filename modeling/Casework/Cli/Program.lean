/-
# The program

A run of the program takes a command line and ends with an exit code, what it printed, and what
it complained about.

| exit code | meaning |
| --- | --- |
| 0 | the command did what it should |
| 1 | it failed; the complaint begins with `Error: ` |
| 2 | the command line is not a command |
| 101 | the program broke down |
-/

import Casework.Cli.Dotenv
import Casework.Cli.Machine
import Casework.Cli.Operator
import Casework.Config.Server
import Casework.Config.Worker
import Casework.Module.Tool
import Casework.Telemetry

namespace Casework
namespace Cli

/-- How a run of the program ends. -/
structure Outcome where
  exitCode : Nat
  /-- What it printed. -/
  output : String := ""
  /-- What it complained about. -/
  complaint : String := ""
deriving DecidableEq, Repr

namespace Outcome

/-- The end of a command that did what it should. -/
def printed (text : String) : Outcome := { exitCode := 0, output := text }

/-- The end of a command that failed. -/
def failed (text : String) : Outcome := { exitCode := 1, complaint := "Error: " ++ text ++ "\n" }

/-- The end of a command with a result. -/
def ofResult : Except Error String → Outcome
  | .ok text => printed text
  | .error e => failed e.message

/-- The end of a command that broke down. -/
def broken : Outcome := { exitCode := 101, complaint := "too many permits\n" }

end Outcome

/-- How to use the program. -/
def usageText : String :=
  "Usage: evq <serve|work|job|hook|case|evidence|modules> [ARGUMENTS]\n"

/-- The end of a run whose command line is not a command. -/
def Usage.outcome : Usage → Outcome
  | .help => .printed usageText
  | .wrong => { exitCode := 2, complaint := usageText }

/-- Opens the store that the server settings name: its place and a fresh token for this run. -/
def openStore (m : Machine) :
    Except Error (ServerConfig × Option Place × InstanceToken) × Machine :=
  match ServerConfig.ofEnvironment m.environment with
  | .error e => (.error e, m)
  | .ok config =>
    match m.locate config.databaseUrl with
    | .error e => (.error e, m)
    | .ok place? =>
      let (token, m) := m.freshIdent
      (.ok (config, place?, token), m)

/-- Runs a command that works on the store. It never takes jobs back: a server may be running on
the same store. -/
def runOnStore (m : Machine) (op : Dispatcher → StoreM String) : Outcome × Machine :=
  match openStore m with
  | (.error e, m) => (.ofResult (.error e), m)
  | (.ok (_, place?, token), m) =>
    match m.onStore place? (op { token := token, registry := .catalog }) with
    | (result, m) => (.ofResult result, m)

/-- Runs the server until someone stops it. -/
def serve (m : Machine) (bind? : Option SocketAddress) : Outcome × Machine :=
  match openStore m with
  | (.error e, m) => (.ofResult (.error e), m)
  | (.ok (config, place?, token), m) =>
    let telemetry : TelemetryConfig :=
      ⟨.dispatcher, token, config.otelEndpoint?, config.logLevel⟩
    match telemetry.start with
    | .error e => (.ofResult (.error e), m)
    | .ok () =>
      let d : Dispatcher := { token := token, registry := .catalog,
                              timing := ⟨config.pollInterval, config.keepAliveInterval⟩ }
      match m.onStore place? d.reclaimStaleJobs with
      | (.error e, m) => (.ofResult (.error e), m)
      | (.ok _, m) =>
        let address := bind?.getD config.bindAddress
        match m.bind address with
        | .ok () => (.printed "", m)
        | .error cause =>
          (.failed ("cannot bind " ++ address.text ++ "\n\nCaused by:\n    " ++ cause), m)

/-- The registry of the tools in a configuration file, with only the modules that the machine can
run. -/
def availableModules (m : Machine) (path directory : String) : Except Error Registry × Machine :=
  match (ToolsConfig.load m.host.files path).bind fun tools => Registry.builtin tools directory with
  | .error e => (.error e, m)
  | .ok registry =>
    let (available, host) := registry.available m.host
    (.ok available, { m with host := host })

/-- Runs a worker until someone stops it. -/
def work (m : Machine) (concurrency? : Option Nat) (tools? : Option String) : Outcome × Machine :=
  match WorkerConfig.ofEnvironment m.environment with
  | .error e => (.ofResult (.error e), m)
  | .ok config =>
    let (instanceId, m) := m.freshIdent
    let telemetry : TelemetryConfig :=
      ⟨.worker, instanceId, config.otelEndpoint?, config.logLevel⟩
    match telemetry.start with
    | .error e => (.ofResult (.error e), m)
    | .ok () =>
      match availableModules m (tools?.getD config.toolsConfig) config.evidenceDir with
      | (.error e, m) => (.ofResult (.error e), m)
      | (.ok registry, m) =>
        let client := Client.ofAddress config.serverUrl config.apiKey?
        match Worker.create? client registry (concurrency?.getD config.concurrency) with
        | none => (.broken, m)
        | some w =>
          let (now, supply) := m.host.supply.now
          let site : Worker.Site Unit := ⟨w, { m.host with supply := supply }, ()⟩
          let (result, site) := Worker.run m.network now m.patience site
          (.ofResult (result.map fun _ => ""), { m with host := site.host })

/-- Lists the modules that the machine can run with the tools of a configuration file. -/
def checkModules (m : Machine) (path : String) : Outcome × Machine :=
  match availableModules m path "." with
  | (result, m) => (.ofResult (result.map modulesText), m)

/-- Runs a command. -/
def runCommand (m : Machine) (c : Command) : Outcome × Machine :=
  match c with
  | .serve bind? => serve m bind?
  | .work concurrency? tools? => work m concurrency? tools?
  | .listModules => (.printed (modulesText .catalog), m)
  | .checkModules path => checkModules m path
  | c => runOnStore m fun d => (c.onStore? d).getD (pure "")

/-- Runs the program on a command line. -/
def run (m : Machine) (args : List String) : Outcome × Machine :=
  let before := m.environment
  let m := { m with environment := Dotenv.load m.host.files m.environment }
  let (outcome, m) := match Command.parse args with
    | .error usage => (usage.outcome, m)
    | .ok c => runCommand m c
  (outcome, { m with environment := before })

end Cli
end Casework
