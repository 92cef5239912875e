/-
# Cases, evidence and hooks

The records of the case tracker. Evidence belongs to one case; a hook queues a module whenever
evidence arrives whose name its condition accepts.
-/

import Casework.Error
import Casework.Json.Codec

namespace Casework

/-- A case. -/
structure Case where
  id : String
  name : String
  sketchId : Int64
deriving DecidableEq

/-- An item of evidence. -/
structure Evidence where
  id : String
  caseId : String
  kind : String
  name : String
  source : String
  notes : String
  size : Int64
  hash : String
  addedAt : Timestamp
deriving DecidableEq

/-- When a hook fires. -/
inductive HookTrigger where
  | onEvidenceAdded
deriving DecidableEq, Repr

/-- A rule that queues a module. -/
structure Hook where
  id : String
  trigger : HookTrigger
  name : String
  module : String
  condition : String
  enabled : Bool
deriving DecidableEq

namespace Case

instance : Wire Case where
  codec := .record "Case"
    [⟨"id", .text, .required, false⟩, ⟨"name", .text, .required, false⟩,
      ⟨"sketchId", .int64, .defaulted, false⟩]
  toDatum c := .record [.text c.id, .text c.name, .integer c.sketchId.toInt]
  ofDatum?
    | .record [.text id, .text name, .integer n] => some ⟨id, name, Int64.ofInt n⟩
    | _ => none

end Case

namespace Evidence

instance : Wire Evidence where
  codec := .record "Evidence"
    [⟨"id", .text, .required, false⟩, ⟨"caseId", .text, .required, false⟩,
      ⟨"type", .text, .defaulted, false⟩, ⟨"name", .text, .required, false⟩,
      ⟨"source", .text, .defaulted, false⟩, ⟨"notes", .text, .defaulted, false⟩,
      ⟨"size", .int64, .defaulted, false⟩, ⟨"hash", .text, .defaulted, false⟩,
      ⟨"addedAt", .instant, .defaulted, false⟩]
  toDatum e := .record [.text e.id, .text e.caseId, .text e.kind, .text e.name, .text e.source,
    .text e.notes, .integer e.size.toInt, .text e.hash, .instant e.addedAt]
  ofDatum?
    | .record [.text id, .text caseId, .text kind, .text name, .text source, .text notes,
        .integer size, .text hash, .instant addedAt] =>
      some ⟨id, caseId, kind, name, source, notes, Int64.ofInt size, hash, addedAt⟩
    | _ => none

end Evidence

namespace HookTrigger

/-- The name of a trigger. -/
def name : HookTrigger → String
  | .onEvidenceAdded => "OnEvidenceAdded"

/-- The trigger of a name. -/
def ofName? (s : String) : Option HookTrigger :=
  if s = "OnEvidenceAdded" then some .onEvidenceAdded else none

/-- The trigger of a name, or the error that refuses it. -/
def parse (s : String) : Except Error HookTrigger :=
  match ofName? s with
  | some t => .ok t
  | none => .error (.validation ("unknown hook trigger: " ++ s))

instance : Wire HookTrigger where
  codec := .choice ["OnEvidenceAdded"]
  toDatum t := .text t.name
  ofDatum?
    | .text s => ofName? s
    | _ => none

end HookTrigger

namespace Hook

instance : Wire Hook where
  codec := .record "Hook"
    [⟨"id", .text, .required, false⟩, ⟨"trigger", Wire.codec HookTrigger, .required, false⟩,
      ⟨"name", .text, .required, false⟩, ⟨"module", .text, .required, false⟩,
      ⟨"condition", .text, .required, false⟩, ⟨"enabled", .flag, .required, false⟩]
  toDatum h := .record [.text h.id, Wire.toDatum h.trigger, .text h.name, .text h.module,
    .text h.condition, .flag h.enabled]
  ofDatum?
    | .record [.text id, trigger, .text name, .text module, .text condition, .flag enabled] =>
      (Wire.ofDatum? trigger).map fun trigger => ⟨id, trigger, name, module, condition, enabled⟩
    | _ => none

end Hook
end Casework
