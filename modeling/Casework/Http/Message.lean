/-
# Requests and responses

Header names are compared without regard to case, and of several headers of one name the first
counts. A response carries JSON, a text, nothing, or the lines of a job stream.
-/

import Casework.Job.Message
import Casework.Net.Uri
import Casework.Text.Percent

namespace Casework
namespace Http

open Text

/-- A request as it reaches the router. -/
structure Request where
  method : String
  /-- Path and query as sent, percent-encoded. -/
  target : String
  headers : List (String × String) := []
  body : String := ""

/-- What a response carries. -/
inductive Body where
  | empty
  | text (s : String)
  | json (j : Json)
  /-- The lines of a worker's stream. -/
  | stream (worker : WorkerToken)

/-- A response. -/
structure Response where
  status : Nat
  contentType? : Option String := none
  allow? : Option String := none
  cacheControl? : Option String := none
  body : Body := .empty

namespace Request

/-- The text in small letters, as far as they are ASCII. -/
def lower (s : String) : String := String.ofList (s.toList.map Char.toLower)

/-- The value of the first header of a name given in small letters. -/
def header? (r : Request) (name : String) : Option String :=
  (r.headers.find? fun h => lower h.1 == name).map Prod.snd

/-- The target without the scheme and the authority that may stand in front of its path. -/
def dropOrigin (cs : List Char) : List Char :=
  match cs.dropWhile (fun c => c != ':' && c != '/') with
  | ':' :: '/' :: '/' :: rest => rest.dropWhile fun c => c != '/' && c != '?'
  | _ => cs

/-- The characters of path and query, without the fragment. -/
def targetChars (r : Request) : List Char := dropOrigin (r.target.toList.takeWhile (· ≠ '#'))

/-- The path as sent. -/
def path (r : Request) : List Char := r.targetChars.takeWhile (· ≠ '?')

/-- The query as sent, empty if there is none. -/
def query (r : Request) : String := String.ofList (r.targetChars.drop (r.path.length + 1))

end Request

/-- A header value that is a text: visible ASCII, blanks and tabs. -/
def headerText? (value : String) : Option String :=
  if value.toList.all fun c => c == '\t' || (0x20 ≤ c.toNat && c.toNat < 0x7F) then some value
  else none

/-- A character of a method or a header name. -/
def isNameChar (c : Char) : Bool := c.isAlphanum || "!#$%&'*+-.^_`|~".toList.contains c

/-- A method or a header name. -/
def isName (s : String) : Bool := s != "" && s.toList.all isNameChar

/-- A character that a header value may have. -/
def isHeaderChar (c : Char) : Bool := c == '\t' || (0x20 ≤ c.toNat && c.toNat != 0x7F)

/-- The request can be sent: method and header names are names, the target is a URI, and header
values have no control characters. -/
def Request.isWellFormed (r : Request) : Bool :=
  isName r.method && Net.isUri r.target &&
    r.headers.all fun h => isName h.1 && h.2.toList.all isHeaderChar

/-- A character of the names in a media type. -/
def isTokenChar (c : Char) : Bool := c.isAlphanum || "!#$&-^_.+%*'|~`".toList.contains c

/-- The parameters of a media type are well-formed: `; name=value`, the value a name or a
quoted text. -/
def areParameters : Nat → List Char → Bool
  | 0, _ => false
  | fuel + 1, cs =>
    match cs.dropWhile (· == ' ') with
    | [] => true
    | ';' :: rest =>
      let rest := rest.dropWhile (· == ' ')
      if rest.isEmpty then true
      else
        let name := rest.takeWhile isTokenChar
        match rest.drop name.length with
        | '=' :: '"' :: rest =>
          let value := rest.takeWhile fun c => c != '"'
          match rest.drop value.length with
          | '"' :: rest => !name.isEmpty && areParameters fuel rest
          | _ => false
        | '=' :: rest =>
          let value := rest.takeWhile isTokenChar
          !name.isEmpty && !value.isEmpty && areParameters fuel (rest.drop value.length)
        | _ => false
    | _ => false

/-- The media type is JSON: `application/json`, or a kind of `application` that ends in
`+json`. -/
def isJsonType (value : String) : Bool :=
  let cs := value.toList.map Char.toLower
  let top := cs.takeWhile isTokenChar
  match cs.drop top.length with
  | '/' :: rest =>
    let sub := rest.takeWhile isTokenChar
    String.ofList top == "application" &&
      (String.ofList sub == "json" || ['+', 'j', 's', 'o', 'n'].isSuffixOf (sub.drop 1)) &&
      areParameters (rest.length + 1) (rest.drop sub.length)
  | _ => false

/-- A response that carries JSON. -/
def jsonResponse (status : Nat) (j : Json) : Response :=
  { status := status, contentType? := some "application/json", body := .json j }

/-- A list of values as JSON. -/
def listJson {α : Type} [Wire α] (as : List α) : Json := .array (as.map Wire.toJson)

end Http
end Casework
