/-
# Paths of routes

| route | path |
| --- | --- |
| `health` | `/health` |
| `jobStream` | `/internal/jobs` |
| `ack` | `/internal/jobs/ack` |
| `workers` | `/internal/workers` |
| `pushJob` | `/api/jobs` |
| `job id` | `/api/jobs/{id}` |
| `registerEvidence cid` | `/api/cases/{cid}/evidences` |
| `runnableModules cid eid` | `/api/cases/{cid}/evidences/{eid}/modules` |
| `evidenceJobs cid eid` | `/api/cases/{cid}/evidences/{eid}/jobs` |

`Route.path` writes a route as the table says, with its parameters as sent.  Reading is exact: a
path is read as a route if and only if it is the path of this route and each parameter is one part
of it, that is not empty and has no slash (`Route.ofPath?_eq_some_iff`).  So a path belongs to one
route at most, and a path that is not in the table to none.
-/

import Casework.Http.Route
import Casework.Proofs.Text.Pieces

namespace Casework

namespace Http

open Text

namespace Route

/-- The parts of a route's path. -/
def parts : Route → List (List Char)
  | .health => ["health".toList]
  | .jobStream => ["internal".toList, "jobs".toList]
  | .ack => ["internal".toList, "jobs".toList, "ack".toList]
  | .workers => ["internal".toList, "workers".toList]
  | .pushJob => ["api".toList, "jobs".toList]
  | .job id => ["api".toList, "jobs".toList, id]
  | .registerEvidence cid => ["api".toList, "cases".toList, cid, "evidences".toList]
  | .runnableModules cid eid =>
    ["api".toList, "cases".toList, cid, "evidences".toList, eid, "modules".toList]
  | .evidenceJobs cid eid =>
    ["api".toList, "cases".toList, cid, "evidences".toList, eid, "jobs".toList]

/-- The path of a route. -/
def path (route : Route) : List Char := joinChars '/' route.parts

/-- The parameters of a route, as sent. -/
def parameters : Route → List (List Char)
  | .job id => [id]
  | .registerEvidence cid => [cid]
  | .runnableModules cid eid => [cid, eid]
  | .evidenceJobs cid eid => [cid, eid]
  | _ => []

/-- Each parameter is one part of a path. -/
def WellFormed (route : Route) : Prop := ∀ p ∈ route.parameters, p ≠ [] ∧ '/' ∉ p

instance (route : Route) : Decidable route.WellFormed := by unfold WellFormed; infer_instance

/-- A path whose parts are texts that have no slash. -/
theorem segments_eq_some_iff {path : List Char} {pieces : List (List Char)} :
    segments path = some pieces ↔
      path = joinChars '/' pieces ∧ pieces ≠ [] ∧ ∀ p ∈ pieces, '/' ∉ p := by
  constructor
  · intro h
    unfold segments at h
    split at h
    next rest =>
      obtain rfl := Option.some.inj h
      exact ⟨(joinChars_splitChars '/' rest).symm, splitChars_ne_nil '/' rest,
        fun p hp => sep_not_mem_splitChars hp⟩
    next => cases h
  · rintro ⟨rfl, some_piece, free⟩
    obtain ⟨p, ps, rfl⟩ := List.exists_cons_of_ne_nil some_piece
    rw [joinChars_cons, segments, splitChars_joinChars free]

/-- The parts of paths that are no parameters. -/
def fixedParts : List (List Char) :=
  ["health", "internal", "jobs", "ack", "workers", "api", "cases", "evidences", "modules"].map
    String.toList

/-- A part of a path is fixed or a parameter. -/
theorem mem_parts {route : Route} {p : List Char} (h : p ∈ route.parts) :
    p ∈ fixedParts ∨ p ∈ route.parameters := by
  cases route <;> simp only [parts, fixedParts, parameters, List.map_cons, List.map_nil,
    List.mem_cons, List.not_mem_nil, or_false] at h ⊢ <;> grind

/-- The parameters are among the parts. -/
theorem mem_parts_of_mem_parameters {route : Route} {p : List Char} (h : p ∈ route.parameters) :
    p ∈ route.parts := by
  cases route <;>
    simp only [parts, parameters, List.mem_cons, List.not_mem_nil, or_false] at h ⊢ <;> grind

/-- The fixed parts are not empty and have no slash. -/
theorem fixedParts_whole : ∀ p ∈ fixedParts, p ≠ [] ∧ '/' ∉ p := by decide

/-- The parts of a path are not empty and have no slash when the parameters are so. -/
theorem parts_whole {route : Route} (wellFormed : route.WellFormed) {p : List Char}
    (h : p ∈ route.parts) : p ≠ [] ∧ '/' ∉ p :=
  (mem_parts h).elim (fixedParts_whole p) (wellFormed p)

/-- Every path has a part. -/
theorem parts_ne_nil (route : Route) : route.parts ≠ [] := by
  cases route <;> exact List.cons_ne_nil _ _

/-- **A path leads to its route** when each parameter is one part. -/
theorem ofPath?_path {route : Route} (wellFormed : route.WellFormed) :
    ofPath? route.path = some route := by
  have pieces : segments route.path = some route.parts :=
    segments_eq_some_iff.2 ⟨rfl, parts_ne_nil route,
      fun p hp => (parts_whole wellFormed hp).2⟩
  have full : route.parts.any List.isEmpty = false := by
    rw [List.any_eq_false]
    intro p hp
    simpa using (parts_whole wellFormed hp).1
  rw [ofPath?, pieces]
  simp only [full]
  cases route <;> simp [parts]

/-- Texts and lists of characters are compared alike. -/
theorem map_ofList_eq_iff {pieces : List (List Char)} {names : List String} :
    pieces.map String.ofList = names ↔ pieces = names.map String.toList := by
  constructor
  · rintro rfl
    simp
  · rintro rfl
    simp

/-- **A path is a route's if and only if the route is written so.** -/
theorem ofPath?_eq_some_iff {path : List Char} {route : Route} :
    ofPath? path = some route ↔ path = route.path ∧ route.WellFormed := by
  refine ⟨fun h => ?_, fun ⟨same, wellFormed⟩ => same ▸ ofPath?_path wellFormed⟩
  unfold ofPath? at h
  cases pieces : segments path with
  | none => rw [pieces] at h; cases h
  | some found =>
    rw [pieces] at h
    dsimp only at h
    split at h
    next => cases h
    next full =>
      obtain ⟨rfl, -, free⟩ := segments_eq_some_iff.1 pieces
      have same : found = route.parts := by
        split at h
        case h_10 => cases h
        all_goals
          rename_i names
          obtain rfl := Option.some.inj h
          have := map_ofList_eq_iff.1 names
          simp only [List.map_cons, List.map_nil, List.cons.injEq] at this
          grind [parts]
      subst same
      refine ⟨rfl, fun p hp => ?_⟩
      have among := mem_parts_of_mem_parameters hp
      refine ⟨?_, free p among⟩
      rintro rfl
      exact full (List.any_eq_true.2 ⟨[], among, rfl⟩)

end Route
end Http
end Casework
