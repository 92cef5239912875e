/-
# Hooks at work

When evidence arrives, every enabled hook whose module is registered and whose condition accepts
the item queues one job, in the order of the hooks' names. A hook that names an unknown module,
or whose condition cannot be evaluated, is passed over.
-/

import Casework.Hook.Glob
import Casework.Module.Basic
import Casework.Store.Jobs
import Casework.Store.Records

namespace Casework

open Text

namespace Hook

/-- Refuses a hook that can never fire: its module has to be registered, its condition to be
one that can be evaluated. -/
def validate (registry : Registry) (rules : RuleEngine) (h : Hook) : Except Error Unit :=
  if registry.contains h.module then rules.validate h.condition
  else .error (.validation ("unknown module " ++ quote h.module))

/-- The hook fires for the item. -/
def fires (registry : Registry) (rules : RuleEngine) (e : Evidence) (h : Hook) : Bool :=
  h.enabled && h.trigger == .onEvidenceAdded && registry.contains h.module &&
    match rules.evaluate h.condition e with
    | .ok accepted => accepted
    | .error _ => false

/-- Queues the jobs of the hooks that fire, one after the other. -/
def enqueueAll (server : InstanceToken) (e : Evidence) : List Hook → StoreM (List Job)
  | [] => return []
  | h :: hooks => do
    let job ← Store.enqueue server e.caseId e.id h.module
    return job :: (← enqueueAll server e hooks)

/-- Queues a job for every hook that fires for the item. -/
def onEvidenceAdded (server : InstanceToken) (registry : Registry) (rules : RuleEngine)
    (e : Evidence) : StoreM (List Job) := do
  let hooks ← Store.listHooks
  enqueueAll server e (hooks.filter (fires registry rules e))

end Hook
end Casework
