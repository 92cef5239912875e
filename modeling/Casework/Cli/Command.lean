/-
# The commands

| command line | what it does |
| --- | --- |
| `serve [--bind ADDRESS]` | runs the server |
| `work [--concurrency N] [--tools FILE]` | runs a worker |
| `job push CASE EVIDENCE MODULE` | queues a module run |
| `job list [--status S] [--evidence ID] [--limit N]` | lists jobs, 20 unless told otherwise |
| `job show ID` | shows the job whose id begins so |
| `hook add NAME MODULE CONDITION [--disabled]` | adds a hook |
| `hook list`, `hook remove ID` | lists hooks, removes one |
| `case add ID NAME [--sketch-id N]` | saves a case |
| `evidence add CASE NAME [--id ID] [--type T] [--source S]` | registers evidence |
| `modules` | lists the modules |
| `modules --case ID --evidence ID` | the modules that apply to an item |
| `modules --check FILE` | the modules that can run with these tools |
-/

import Casework.Cli.Arguments

namespace Casework
namespace Cli

open Text

/-- What an operator asks for. -/
inductive Command where
  | serve (bind? : Option SocketAddress)
  | work (concurrency? : Option Nat) (tools? : Option String)
  | pushJob (caseId evidenceId moduleName : String)
  | listJobs (status? evidence? : Option String) (limit : Int)
  | showJob (id : String)
  | addHook (name module condition : String) (enabled : Bool)
  | listHooks
  | removeHook (id : String)
  | addCase (id name : String) (sketchId : Int64)
  | addEvidence (caseId name : String) (id? : Option String) (kind source : String)
  | listModules
  | runnableModules (caseId evidenceId : String)
  | checkModules (tools : String)
deriving DecidableEq, Repr

namespace Command

/-- The number of an option, `fallback` if it was not given. -/
def integerOption (a : Arguments) (name : String) (fallback : Int) : Int :=
  match (a.option? name).map (readSigned maxI64) with
  | some (.ok n) => n
  | _ => fallback

/-- The count of an option. -/
def countOption? (a : Arguments) (name : String) : Option Nat :=
  match (a.option? name).map (readUnsigned maxU64) with
  | some (.ok n) => some n
  | _ => none

/-- Which modules to list: those for an item need both its case and its id, and exclude a check. -/
def modulesCommand (a : Arguments) : Except Usage Command :=
  match a.option? "case", a.option? "evidence", a.option? "check" with
  | some caseId, some evidenceId, none => .ok (.runnableModules caseId evidenceId)
  | none, none, some tools => .ok (.checkModules tools)
  | none, none, none => .ok .listModules
  | _, _, _ => .error .wrong

/-- The commands on jobs. -/
def parseJob (args : List String) : Except Usage Command := do
  let (name, args) ← takeName ["push", "list", "show"] args
  match name with
  | "push" =>
    match (← Signature.read ⟨3, []⟩ args).values with
    | [caseId, evidenceId, moduleName] => return .pushJob caseId evidenceId moduleName
    | _ => throw .wrong
  | "list" =>
    let a ← Signature.read ⟨0, [("status", .text), ("evidence", .text), ("limit", .integer)]⟩ args
    return .listJobs (a.option? "status") (a.option? "evidence") (integerOption a "limit" 20)
  | _ =>
    match (← Signature.read ⟨1, []⟩ args).values with
    | [id] => return .showJob id
    | _ => throw .wrong

/-- The commands on hooks. -/
def parseHook (args : List String) : Except Usage Command := do
  let (name, args) ← takeName ["add", "list", "remove"] args
  match name with
  | "add" =>
    let a ← Signature.read ⟨3, [("disabled", .none)]⟩ args
    match a.values with
    | [name, module, condition] => return .addHook name module condition (!a.has "disabled")
    | _ => throw .wrong
  | "list" =>
    let _ ← Signature.read ⟨0, []⟩ args
    return .listHooks
  | _ =>
    match (← Signature.read ⟨1, []⟩ args).values with
    | [id] => return .removeHook id
    | _ => throw .wrong

/-- The commands on cases. -/
def parseCase (args : List String) : Except Usage Command := do
  let (_, args) ← takeName ["add"] args
  let a ← Signature.read ⟨2, [("sketch-id", .integer)]⟩ args
  match a.values with
  | [id, name] => return .addCase id name (Int64.ofInt (integerOption a "sketch-id" 0))
  | _ => throw .wrong

/-- The commands on evidence. -/
def parseEvidence (args : List String) : Except Usage Command := do
  let (_, args) ← takeName ["add"] args
  let a ← Signature.read ⟨2, [("id", .text), ("type", .text), ("source", .text)]⟩ args
  match a.values with
  | [caseId, name] =>
    return .addEvidence caseId name (a.option? "id") ((a.option? "type").getD "Other")
      ((a.option? "source").getD "")
  | _ => throw .wrong

/-- The command of a command line. -/
def parse (args : List String) : Except Usage Command := do
  let (name, args) ←
    takeName ["serve", "work", "job", "hook", "case", "evidence", "modules"] args
  match name with
  | "serve" =>
    let a ← Signature.read ⟨0, [("bind", .address)]⟩ args
    return .serve ((a.option? "bind").bind SocketAddress.parse?)
  | "work" =>
    let a ← Signature.read ⟨0, [("concurrency", .count), ("tools", .path)]⟩ args
    return .work (countOption? a "concurrency") (a.option? "tools")
  | "job" => parseJob args
  | "hook" => parseHook args
  | "case" => parseCase args
  | "evidence" => parseEvidence args
  | _ =>
    let a ← Signature.read
      ⟨0, [("case", .text), ("evidence", .text), ("check", .path)]⟩ args
    modulesCommand a

end Command
end Cli
end Casework
