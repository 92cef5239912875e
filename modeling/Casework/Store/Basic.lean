/-
# The store

Four tables: jobs, cases, evidence and hooks. Rows keep the order in which they were inserted,
and a job's place is its turn. A table can get out of reach behind the queue's back; operations
on it then fail, and leave everything as it is.

An operation of the store is a `StoreM` computation: it answers or fails, and the store it
leaves counts in both cases.
-/

import Casework.Store.Row
import Casework.Supply

namespace Casework

/-- The rows of a table in order of insertion. -/
structure Table (α : Type) where
  rows : List α := []
  /-- The table is out of reach. -/
  lost : Bool := false

/-- Jobs, cases, evidence and hooks, and the supply of fresh names and times. -/
structure Store where
  jobs : Table JobRow := {}
  cases : Table Case := {}
  evidences : Table Evidence := {}
  hooks : Table HookRow := {}
  supply : Supply

/-- A computation on the store. -/
abbrev StoreM := ExceptT Error (StateM Store)

namespace Store

/-- The tables by name. -/
inductive TableName where
  | jobs
  | cases
  | evidences
  | hooks
deriving DecidableEq, Repr

/-- The name of a table. -/
def TableName.text : TableName → String
  | .jobs => "jobs"
  | .cases => "cases"
  | .evidences => "evidences"
  | .hooks => "hooks"

/-- The table of a name. -/
def TableName.ofText? (s : String) : Option TableName :=
  [jobs, cases, evidences, hooks].find? fun t => t.text == s

/-- What the store says when a table is out of reach. -/
def lostTable (t : TableName) : Error :=
  .store ("error returned from database: (code: 1) no such table: " ++ t.text)

/-- The table is out of reach. -/
def isLost (s : Store) : TableName → Bool
  | .jobs => s.jobs.lost
  | .cases => s.cases.lost
  | .evidences => s.evidences.lost
  | .hooks => s.hooks.lost

/-- The store with a table out of reach. -/
def without (s : Store) : TableName → Store
  | .jobs => { s with jobs := { s.jobs with lost := true } }
  | .cases => { s with cases := { s.cases with lost := true } }
  | .evidences => { s with evidences := { s.evidences with lost := true } }
  | .hooks => { s with hooks := { s.hooks with lost := true } }

/-- Puts a table out of reach for good. -/
def dropTable (t : TableName) : StoreM Unit := do
  let s ← get
  if s.isLost t then throw (lostTable t) else set (s.without t)

/-- A fresh identifier. -/
def freshIdent : StoreM String := do
  let s ← get
  let (id, supply) := s.supply.next
  set { s with supply := supply }
  return id

/-- The present time. -/
def now : StoreM Timestamp := do
  let s ← get
  let (t, supply) := s.supply.now
  set { s with supply := supply }
  return t

/-- The rows of the job table. -/
def jobRows : StoreM (List JobRow) := do
  let s ← get
  if s.jobs.lost then throw (lostTable .jobs) else return s.jobs.rows

/-- Replaces the rows of the job table. -/
def putJobs (rows : List JobRow) : StoreM Unit := modify fun s => { s with jobs := ⟨rows, false⟩ }

/-- The rows of the case table. -/
def caseRows : StoreM (List Case) := do
  let s ← get
  if s.cases.lost then throw (lostTable .cases) else return s.cases.rows

/-- The rows of the evidence table. -/
def evidenceRows : StoreM (List Evidence) := do
  let s ← get
  if s.evidences.lost then throw (lostTable .evidences) else return s.evidences.rows

/-- The rows of the hook table. -/
def hookRows : StoreM (List HookRow) := do
  let s ← get
  if s.hooks.lost then throw (lostTable .hooks) else return s.hooks.rows

/-- The store answers. -/
def health : StoreM Unit := return ()

end Store
end Casework
