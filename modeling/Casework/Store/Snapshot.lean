/-
# A store as a text

A store is kept as a text with a line for every record: an object with one member, which names
the kind of the record. Cases come first, then evidence, hooks and jobs, each in the order of
their rows. A row that cannot be read is not kept.
-/

import Casework.Store.Records

namespace Casework

open Text

/-- A record of the store. -/
inductive StoreRecord where
  | ofCase (c : Case)
  | ofEvidence (e : Evidence)
  | ofHook (h : Hook)
  | ofJob (j : Job)
deriving DecidableEq

namespace StoreRecord

instance : Wire StoreRecord where
  codec := .record "StoreRecord"
    [⟨"case", .optional (Wire.codec Case), .nullable, true⟩,
      ⟨"evidence", .optional (Wire.codec Evidence), .nullable, true⟩,
      ⟨"hook", .optional (Wire.codec Hook), .nullable, true⟩,
      ⟨"job", .optional (Wire.codec Job), .nullable, true⟩]
  toDatum
    | .ofCase c => .record [Wire.toDatum c, .absent, .absent, .absent]
    | .ofEvidence e => .record [.absent, Wire.toDatum e, .absent, .absent]
    | .ofHook h => .record [.absent, .absent, Wire.toDatum h, .absent]
    | .ofJob j => .record [.absent, .absent, .absent, Wire.toDatum j]
  ofDatum?
    | .record [c, .absent, .absent, .absent] => (Wire.ofDatum? c).map .ofCase
    | .record [.absent, e, .absent, .absent] => (Wire.ofDatum? e).map .ofEvidence
    | .record [.absent, .absent, h, .absent] => (Wire.ofDatum? h).map .ofHook
    | .record [.absent, .absent, .absent, j] => (Wire.ofDatum? j).map .ofJob
    | _ => none

end StoreRecord

/-- The row of a job. -/
def JobRow.ofJob (j : Job) : JobRow :=
  ⟨j.id, j.caseId, j.evidenceId, j.moduleName, j.status, j.error, j.serverToken, j.workerToken,
    some j.createdAt, some j.updatedAt⟩

namespace Store

/-- The records of a store. -/
def records (s : Store) : List StoreRecord :=
  s.cases.rows.map .ofCase ++ s.evidences.rows.map .ofEvidence ++
    (s.hooks.rows.filterMap fun r => r.read.toOption.map .ofHook) ++
    (s.jobs.rows.filterMap fun r => r.job?.map .ofJob)

/-- The store with one more record. -/
def addRecord (s : Store) : StoreRecord → Store
  | .ofCase c => { s with cases := ⟨s.cases.rows ++ [c], false⟩ }
  | .ofEvidence e => { s with evidences := ⟨s.evidences.rows ++ [e], false⟩ }
  | .ofHook h => { s with hooks := ⟨s.hooks.rows ++ [HookRow.ofHook h], false⟩ }
  | .ofJob j => { s with jobs := ⟨s.jobs.rows ++ [JobRow.ofJob j], false⟩ }

/-- The text of a store. -/
def snapshot (s : Store) : String :=
  String.join (s.records.map fun r => Wire.render r ++ "\n")

/-- The store that a text holds, `none` if a line of it is no record. -/
def ofSnapshot? (supply : Supply) (s : String) : Option Store :=
  ((splitChars '\n' s.toList).filter fun line => !line.isEmpty).foldlM (fun store line =>
    match Wire.parse Timestamp.epoch (String.ofList line) with
    | .ok r => some (store.addRecord r)
    | .error _ => none) { supply := supply }

end Store
end Casework
