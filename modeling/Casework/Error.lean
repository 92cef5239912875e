/-
# What can go wrong

`Error` is what an operation of the queue fails with, `ModuleError` what running a module fails
with. Each is a cause; `message` is its wording.
-/

namespace Casework

/-- Why a request to a server failed. -/
inductive RequestFailure where
  /-- The answer had an error status. -/
  | status (code : Nat)
  /-- The answer was not what was asked for. -/
  | decode
  /-- The answer broke off. -/
  | body
  /-- There was no answer. -/
  | unanswered
deriving DecidableEq, Repr

/-- The wording of a failed request. -/
def RequestFailure.message : RequestFailure → String
  | .status code => "the server answered with status " ++ toString code
  | .decode => "error decoding response body"
  | .body => "request or response body error"
  | .unanswered => "error sending request"

/-- Why an operation failed. -/
inductive Error where
  | notFound (what : String)
  | validation (text : String)
  | store (text : String)
  | migrate (text : String)
  | request (failure : RequestFailure)
  | transport (text : String)
  | config (text : String)
  | file (text : String)
  | other (text : String)
deriving DecidableEq, Repr

/-- The wording of an error. -/
def Error.message : Error → String
  | .notFound what => "not found: " ++ what
  | .validation text => "invalid input: " ++ text
  | .store text => "store error: " ++ text
  | .migrate text => "migration failed: " ++ text
  | .request failure => "http error: " ++ failure.message
  | .transport text => "transport error: " ++ text
  | .config text => "configuration error: " ++ text
  | .file text => "io error: " ++ text
  | .other text => text

/-- Why a module run, or the check before it, failed. -/
inductive ModuleError where
  | notConfigured (module : String)
  | spawn (cause : String)
  | exited (code : Int)
  | terminated
  | missingEvidence
  | failed (text : String)
deriving DecidableEq, Repr

/-- The wording of a module error. -/
def ModuleError.message : ModuleError → String
  | .notConfigured module => "module " ++ module ++ " is not configured on this worker"
  | .spawn cause => "failed to start tool: " ++ cause
  | .exited code => "tool exited " ++ toString code
  | .terminated => "tool terminated by signal"
  | .missingEvidence => "evidence missing from job descriptor"
  | .failed text => text

/-- What the system says when a file operation fails. -/
inductive FileError where
  | missing
  | denied
  | nameTooLong
  | isDirectory
  | notDirectory
deriving DecidableEq, Repr

/-- The wording of a file error, with its number. -/
def FileError.message : FileError → String
  | .missing => "No such file or directory (os error 2)"
  | .denied => "Permission denied (os error 13)"
  | .nameTooLong => "File name too long (os error 36)"
  | .isDirectory => "Is a directory (os error 21)"
  | .notDirectory => "Not a directory (os error 20)"

end Casework
