/-
# Errors as responses

| error | status | code | text |
| --- | --- | --- | --- |
| no or wrong key | 401 | `UNAUTHORIZED` | fixed |
| body refused | 400, 415, 422 | `INVALID_REQUEST_BODY` | the cause |
| query refused | 400 | `INVALID_QUERY` | the cause |
| not found | 404 | `NOT_FOUND` | what is missing |
| validation | 400 | `VALIDATION_ERROR` | the cause |
| another server failed | 502 | `UPSTREAM_ERROR` | the cause |
| anything else | 500 | `INTERNAL_ERROR` | fixed: causes stay inside |
-/

import Casework.Http.Message

namespace Casework
namespace Http

/-- Why a body is refused. -/
inductive BodyFault where
  /-- It does not say that it is JSON. -/
  | notJson
  /-- It is not JSON. -/
  | malformed
  /-- It is JSON and not what was asked for. -/
  | mismatch (cause : String)
deriving DecidableEq, Repr

namespace BodyFault

/-- The status of the response. -/
def status : BodyFault → Nat
  | .notJson => 415
  | .malformed => 400
  | .mismatch _ => 422

/-- The wording of the cause. -/
def message : BodyFault → String
  | .notJson => "Expected request with `Content-Type: application/json`"
  | .malformed => "Failed to parse the request body as JSON"
  | .mismatch cause => "Failed to deserialize the JSON body into the target type: " ++ cause

end BodyFault

/-- Why a request is refused or fails. -/
inductive ApiError where
  | core (e : Error)
  | unauthorized
  | body (fault : BodyFault)
  | query (cause : String)
deriving DecidableEq

namespace ApiError

/-- The wording of the error. -/
def message : ApiError → String
  | .core e => e.message
  | .unauthorized => "unauthorized"
  | .body fault => "invalid request body: " ++ fault.message
  | .query cause => "invalid query: " ++ cause

/-- Status, code and text of the response. -/
def parts : ApiError → Nat × String × String
  | .unauthorized => (401, "UNAUTHORIZED", "missing or invalid API key")
  | .body fault => (fault.status, "INVALID_REQUEST_BODY", fault.message)
  | .query cause => (400, "INVALID_QUERY", "Failed to deserialize query string: " ++ cause)
  | .core (.notFound what) => (404, "NOT_FOUND", what ++ " not found")
  | .core (.validation text) => (400, "VALIDATION_ERROR", text)
  | .core (.request failure) => (502, "UPSTREAM_ERROR", (Error.request failure).message)
  | .core (.transport text) => (502, "UPSTREAM_ERROR", (Error.transport text).message)
  | .core _ => (500, "INTERNAL_ERROR", "an internal error occurred")

/-- The response to a request that fails. -/
def response (e : ApiError) : Response :=
  let (status, code, text) := e.parts
  jsonResponse status (.object [("code", .text code), ("error", .text text)])

end ApiError
end Http
end Casework
