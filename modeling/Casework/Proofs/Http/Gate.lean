/-
# Without the key a request learns nothing

A server that wants a key looks at three things of a request to a protected route before it has
seen the key: the path, the method and the first `X-API-Key` header.  So the response to a request
that does not carry the key is a function of the request alone (`refusal`, or not found), and the
server is left as it was.  `keyless_learns_nothing` says so of every path but the one that needs no
key, by `Route.ofPath?_eq_some_iff`: which paths are protected is read off the table of routes, and
not off the code that asks for the key.
-/

import Casework.Http.Router
import Casework.Proofs.Http.Routing

namespace Casework
namespace Http

/-- The request does not carry the key: its first header of the name is missing, is not the visible
ASCII (tabs and blanks among it) that is read as a text, or is another text. -/
inductive Keyless (key : String) (r : Request) : Prop where
  | absent (header : r.header? "x-api-key" = none)
  | unreadable {value : String} {c : Char} (header : r.header? "x-api-key" = some value)
      (within : c ∈ value.toList) (invisible : c ≠ '\t' ∧ ¬(0x20 ≤ c.toNat ∧ c.toNat < 0x7F))
  | different {value : String} (header : r.header? "x-api-key" = some value) (other : value ≠ key)

variable {key : String} {r : Request} {s : Server} {now : Nat} {remote : String} {route : Route}

/-- A header with a character that cannot be shown has no text. -/
theorem headerText?_of_invisible {value : String} {c : Char} (within : c ∈ value.toList)
    (invisible : c ≠ '\t' ∧ ¬(0x20 ≤ c.toNat ∧ c.toNat < 0x7F)) : headerText? value = none := by
  unfold headerText?
  rw [if_neg]
  intro visible
  have := List.all_eq_true.1 visible c within
  simp only [Bool.or_eq_true, beq_iff_eq, Bool.and_eq_true, decide_eq_true_eq] at this
  exact this.elim invisible.1 invisible.2

/-- The text of a header is its value, so another value is another text. -/
theorem headerText?_ne {value : String} (other : value ≠ key) : headerText? value ≠ some key := by
  unfold headerText?
  split
  · simpa using other
  · simp

/-- Who does not send the key is not let in. -/
theorem Keyless.isAuthorized (h : Keyless key r) : isAuthorized (some key) r = false := by
  rw [Http.isAuthorized, beq_eq_false_iff_ne]
  cases h with
  | absent header => simp [header]
  | unreadable header within invisible =>
    simp [header, headerText?_of_invisible within invisible]
  | different header other => simpa [header] using headerText?_ne other

/-- The response to a request on a protected route that does not carry the key. -/
def refusal (r : Request) (route : Route) : Response :=
  { ApiError.unauthorized.response with
    allow? := if route.allows r.method then none else some route.allow
    body := if r.method = "HEAD" then .empty else ApiError.unauthorized.response.body }

/-- **Behind a guarded route** such a request is answered before anything is done. -/
theorem Keyless.serveRoute (h : Keyless key r) (guarded : route.isProtected = true) :
    serveRoute s (some key) now remote r route =
      ({ ApiError.unauthorized.response with
         allow? := if route.allows r.method then none else some route.allow }, [], s) := by
  rw [Http.serveRoute, guarded, h.isAuthorized]
  rfl

/-- **On a guarded path** a request without the key is answered before anything is done. -/
theorem Keyless.serve (h : Keyless key r) (found : Route.ofPath? r.path = some route)
    (guarded : route.isProtected = true) :
    serve s (some key) now remote r = (refusal r route, [], s) := by
  rw [Http.serve, found]
  dsimp only
  rw [h.serveRoute guarded]
  by_cases head : r.method = "HEAD"
  · rw [if_pos (beq_iff_eq.2 head), refusal, if_pos head]
    rfl
  · rw [if_neg (mt beq_iff_eq.1 head), refusal, if_neg head]

/-- A path of no route is not found, whatever is sent. -/
theorem serve_unknown (unknown : Route.ofPath? r.path = none) (apiKey? : Option String) :
    serve s apiKey? now remote r = ({ status := 404 }, [], s) := by
  rw [serve, unknown]

/-- Every route is guarded but the one for health. -/
theorem Route.isProtected_iff : route.isProtected = true ↔ route ≠ .health := by
  cases route <;> simp [Route.isProtected]

/-- **Without the key** every server answers alike and stays as it is. -/
theorem Keyless.unmoved (h : Keyless key r) (other : r.path ≠ "/health".toList) :
    ∃ response, ∀ s now remote, Http.serve s (some key) now remote r = (response, [], s) := by
  cases found : Route.ofPath? r.path with
  | none => exact ⟨_, fun s now remote => serve_unknown found (some key)⟩
  | some route =>
    have guarded : route ≠ .health := by
      rintro rfl
      exact other (Route.ofPath?_eq_some_iff.1 found).1
    exact ⟨_, fun s now remote => h.serve found (Route.isProtected_iff.2 guarded)⟩

/-- **Without the key, nothing is changed and nothing is learnt.**  The server is as before, no
stream has an event, and two servers of any contents give one and the same response, at any time
and to any address; on a protected route with an allowed method it is the refusal for want of
the key. -/
theorem keyless_learns_nothing (other : r.path ≠ "/health".toList) (keyless : Keyless key r) :
    (∀ s now remote, (serve s (some key) now remote r).2 = ([], s)) ∧
    (∀ s₁ s₂ now₁ now₂ remote₁ remote₂,
      (serve s₁ (some key) now₁ remote₁ r).1 = (serve s₂ (some key) now₂ remote₂ r).1) ∧
    ∀ s now remote (route : Route), route ≠ .health → route.WellFormed → r.path = route.path →
      route.allows r.method = true →
      (serve s (some key) now remote r).1 =
        { status := 401
          contentType? := some "application/json"
          body := if r.method = "HEAD" then .empty
            else .json (.object [("code", .text "UNAUTHORIZED"),
              ("error", .text "missing or invalid API key")]) } := by
  obtain ⟨response, same⟩ := keyless.unmoved other
  refine ⟨fun s now remote => by rw [same], fun _ _ _ _ _ _ => by rw [same, same],
    fun s now remote route guarded wellFormed path allowed => ?_⟩
  rw [keyless.serve (Route.ofPath?_eq_some_iff.2 ⟨path, wellFormed⟩)
    (Route.isProtected_iff.2 guarded), refusal, if_pos allowed]
  rfl

/-- A worker with the wrong key first and the right one after it, and a query that cannot be
read. -/
def intruder : Request where
  method := "GET"
  target := "/internal/jobs?workers=many"
  headers := [("X-Api-Key", "guess"), ("x-api-key", "secret")]

/-- A request with a wrong key learns that it is not let in. -/
theorem intruder_refused :
    intruder.path ≠ "/health".toList ∧ Keyless "secret" intruder ∧
    ∀ s now remote, serve s (some "secret") now remote intruder =
      ({ status := 401
         contentType? := some "application/json"
         body := .json (.object [("code", .text "UNAUTHORIZED"),
           ("error", .text "missing or invalid API key")]) }, [], s) := by
  have path : intruder.path = Route.jobStream.path := by decide
  have other : intruder.path ≠ "/health".toList := by decide
  have first : intruder.header? "x-api-key" = some "guess" := by decide
  have keyless : Keyless "secret" intruder := .different first (by decide)
  obtain ⟨unchanged, -, refused⟩ := keyless_learns_nothing other keyless
  refine ⟨other, keyless, fun s now remote => Prod.ext ?_ (unchanged s now remote)⟩
  exact refused s now remote .jobStream (by decide) (by decide) path (by decide)

end Http
end Casework
