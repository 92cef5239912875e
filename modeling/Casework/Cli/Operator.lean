/-
# Operator commands on the store

Each command is a computation on the store that gives the text to print. Columns are as wide as
their headers ask and two blanks apart; a longer text pushes the rest to the right.
-/

import Casework.Cli.Command
import Casework.Dispatch.Dispatcher
import Casework.Text.Pad

namespace Casework
namespace Cli

open Text

/-- Lines, each with its line feed. -/
def textOfLines (lines : List String) : String := String.join (lines.map (· ++ "\n"))

/-- Columns of a line: each text filled up to its width, two blanks between neighbours. -/
def columns (cells : List (Nat × String)) : String :=
  joinWith "  " (cells.map fun c => padRight c.1 c.2)

/-! ## Jobs -/

/-- Queues a module run. -/
def pushJob (d : Dispatcher) (caseId evidenceId moduleName : String) : StoreM String := do
  let job ← d.pushJob ⟨caseId, evidenceId, moduleName⟩
  return textOfLines
    ["Queued: " ++ job.id ++ " (" ++ job.moduleName ++ " on " ++ job.evidenceId ++ ")"]

/-- The first jobs, as many as a limit that is a count allows; one that is none allows all. -/
def takeCount (limit : Int) (jobs : List Job) : List Job :=
  match limit.toNat? with
  | some n => jobs.take n
  | none => jobs

/-- The jobs that a listing shows: those on an item if one is given, of a status if one is given,
as many as the limit allows. -/
def selectJobs (status? evidence? : Option String) (limit : Int) : StoreM (List Job) := do
  let status? ← status?.mapM fun s => (JobStatus.parse s : Except Error JobStatus)
  match evidence? with
  | some evidenceId =>
    let jobs ← Store.listJobs evidenceId
    return takeCount limit (jobs.filter fun j => status?.all (j.status == ·))
  | none => Store.listJobsByStatus status? limit

/-- The first characters of a job id, which listings show. -/
def shortId (j : Job) : String := String.ofList (j.id.toList.take 8)

/-- The line of a job in a listing. -/
def jobLine (j : Job) : String :=
  columns [(8, shortId j), (28, j.moduleName), (10, j.status.name), (12, j.evidenceId),
    (0, j.createdAt.minuteText)]

/-- A listing of jobs. -/
def jobsText (jobs : List Job) : String :=
  if jobs.isEmpty then "No jobs found.\n"
  else
    textOfLines
      ([columns [(8, "ID"), (28, "MODULE"), (10, "STATUS"), (12, "EVIDENCE"), (0, "CREATED")],
        String.ofList (List.replicate 80 '-')] ++ jobs.map jobLine ++
        ["", toString jobs.length ++ " job(s)"])

/-- Everything about a job. -/
def jobText (j : Job) : String :=
  textOfLines
    (["ID:         " ++ j.id, "Module:     " ++ j.moduleName, "Case:       " ++ j.caseId,
      "Evidence:   " ++ j.evidenceId, "Status:     " ++ j.status.name] ++
      (if j.error == "" then [] else ["Error:      " ++ j.error]) ++
      ["Worker:     " ++ (if j.workerToken == "" then "-" else j.workerToken),
        "Server:     " ++ j.serverToken, "Created:    " ++ j.createdAt.spelled,
        "Updated:    " ++ j.updatedAt.spelled])

/-- The bytes of a whole job id. -/
def jobIdBytes : Nat := 32

/-- The job that an argument names: by its whole id, or by the front of the id if that belongs to
one job only. -/
def resolveJob (id : String) : StoreM Job := do
  if id.utf8ByteSize < jobIdBytes then
    match ← Store.findJobs id 2 with
    | [] => throw (.other ("no job matching prefix '" ++ id ++ "'"))
    | [job] => return job
    | _ => throw (.other ("several jobs match prefix '" ++ id ++ "', be more specific"))
  else Store.getJob id

/-! ## Hooks, cases and evidence -/

/-- Adds a hook. -/
def addHook (d : Dispatcher) (name module condition : String) (enabled : Bool) :
    StoreM String := do
  let id ← Store.freshIdent
  let hook : Hook := ⟨id, .onEvidenceAdded, name, module, condition, enabled⟩
  hook.validate d.registry d.rules
  Store.saveHook hook
  return textOfLines ["Added hook " ++ id ++ " (" ++ name ++ ")"]

/-- The line of a hook in a listing. -/
def hookLine (h : Hook) : String :=
  columns [(0, h.id), (20, h.name), (28, h.module), (20, h.condition),
    (0, if h.enabled then "enabled" else "disabled")]

/-- Lists the hooks. -/
def listHooks : StoreM String := do
  let hooks ← Store.listHooks
  return if hooks.isEmpty then "No hooks configured.\n" else textOfLines (hooks.map hookLine)

/-- Removes a hook. -/
def removeHook (id : String) : StoreM String := do
  Store.deleteHook id
  return textOfLines ["Removed hook " ++ id]

/-- Saves a case. -/
def addCase (id name : String) (sketchId : Int64) : StoreM String := do
  Store.saveCase ⟨id, name, sketchId⟩
  return textOfLines ["Saved case " ++ id]

/-- Registers evidence, which may queue jobs. -/
def addEvidence (d : Dispatcher) (caseId name : String) (id? : Option String)
    (kind source : String) : StoreM String := do
  let id ← match id? with
    | some id => pure id
    | none => Store.freshIdent
  let now ← Store.now
  let jobs ← d.registerEvidence ⟨id, caseId, kind, name, source, "", 0, "", now⟩
  return textOfLines (["Registered evidence " ++ id ++ " (" ++ name ++ ")"] ++
    jobs.map fun j => "  hook queued " ++ j.id ++ " (" ++ j.moduleName ++ ")")

/-! ## Modules -/

/-- The line of a module that applies to an item. -/
def runLine (r : ModuleRun) : String :=
  columns [(30, r.name), (10, (r.status?.map JobStatus.name).getD "-"), (0, r.error)]

/-- Lists the modules that apply to an item. -/
def listRunnable (d : Dispatcher) (caseId evidenceId : String) : StoreM String := do
  let runs ← d.runnableModules caseId evidenceId
  return if runs.isEmpty then "No modules apply to this evidence.\n"
    else textOfLines (runs.map runLine)

/-- A listing of modules. -/
def modulesText (r : Registry) : String :=
  textOfLines (r.modules.map fun m => columns [(30, m.name), (0, m.description)])

/-- The computation of a command that works on the store, `none` for the other commands. -/
def Command.onStore? (d : Dispatcher) : Command → Option (StoreM String)
  | .pushJob caseId evidenceId moduleName => some (Cli.pushJob d caseId evidenceId moduleName)
  | .listJobs status? evidence? limit => some (jobsText <$> selectJobs status? evidence? limit)
  | .showJob id => some (jobText <$> resolveJob id)
  | .addHook name module condition enabled => some (Cli.addHook d name module condition enabled)
  | .listHooks => some Cli.listHooks
  | .removeHook id => some (Cli.removeHook id)
  | .addCase id name sketchId => some (Cli.addCase id name sketchId)
  | .addEvidence caseId name id? kind source =>
    some (Cli.addEvidence d caseId name id? kind source)
  | .runnableModules caseId evidenceId => some (listRunnable d caseId evidenceId)
  | .serve _ => none
  | .work _ _ => none
  | .listModules => none
  | .checkModules _ => none

end Cli
end Casework
