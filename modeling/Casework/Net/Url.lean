/-
# Web addresses

An address on a web server: scheme, host with port, path and query. Reading one is forgiving:
blanks and control characters around it are dropped, tabs and line breaks anywhere in it too, a
backslash counts as a slash, and what a path or query may not have as it is becomes
percent-encoded. A percent sign stays as it is.

A path is read segment by segment: `.` stands for the directory itself and `..` for the one
above, also when their points are written `%2e`. Host names are checked and not resolved.
-/

import Casework.Text.Percent
import Casework.Text.Numeral

namespace Casework
namespace Net

open Text

/-- An address on a web server. -/
structure Url where
  /-- The connection is encrypted. -/
  secure : Bool
  /-- Host and port, as the request names them. -/
  authority : String
  /-- The segments of the path, percent-encoded. -/
  path : List String
  /-- The query, percent-encoded. -/
  query? : Option String
deriving DecidableEq, Repr

namespace Url

/-- Blanks and control characters, which are dropped around an address. -/
def isMargin (c : Char) : Bool := c.toNat ≤ 0x20

/-- Tabs and line breaks, which are dropped anywhere in an address. -/
def isBreak (c : Char) : Bool := c == '\t' || c == '\n' || c == '\r'

/-- The characters of an address that count. -/
def essential (cs : List Char) : List Char :=
  ((cs.dropWhile isMargin).reverse.dropWhile isMargin).reverse.filter fun c => !isBreak c

/-- A slash of either kind. -/
def isSlash (c : Char) : Bool := c == '/' || c == '\\'

/-- A character that ends the authority. -/
def endsAuthority (c : Char) : Bool := isSlash c || c == '?' || c == '#'

/-- A character that ends the path. -/
def endsPath (c : Char) : Bool := c == '?' || c == '#'

/-- The characters that a query leaves as they are. -/
def isQueryPlain (c : Char) : Bool :=
  0x20 < c.toNat && c.toNat < 0x7F && !(['"', '#', '<', '>', '\''].contains c)

/-- The characters that a path segment leaves as they are. -/
def isPathPlain (c : Char) : Bool :=
  0x20 < c.toNat && c.toNat < 0x7F &&
    !(['"', '#', '<', '>', '?', '^', '`', '\x7b', '\x7d'].contains c)

/-- The pieces of a path between its slashes of either kind. -/
def splitSlashes : List Char → List (List Char)
  | [] => [[]]
  | c :: cs =>
    if isSlash c then [] :: splitSlashes cs
    else
      match splitSlashes cs with
      | [] => [[c]]
      | p :: ps => (c :: p) :: ps

/-- The number of points that a segment consists of, `%2e` counting as one. -/
def dots? : List Char → Option Nat
  | [] => some 0
  | '.' :: cs => (dots? cs).map (· + 1)
  | '%' :: '2' :: 'e' :: cs => (dots? cs).map (· + 1)
  | '%' :: '2' :: 'E' :: cs => (dots? cs).map (· + 1)
  | _ => none

/-- Follows the pieces of a path from the segments gone so far; a path that ends in `.` or `..`
names a directory, and gets an empty last segment. -/
def follow (gone : List String) : List (List Char) → List String
  | [] => gone
  | piece :: rest =>
    let gone :=
      match dots? piece with
      | some 1 => if rest.isEmpty then gone ++ [""] else gone
      | some 2 => if rest.isEmpty then gone.dropLast ++ [""] else gone.dropLast
      | _ => gone ++ [percentEncode isPathPlain (String.ofList piece)]
    follow gone rest

/-- The segments of what stands between the authority and the query. -/
def segments (cs : List Char) : List String :=
  match cs with
  | [] => [""]
  | c :: rest => follow [] (splitSlashes (if isSlash c then rest else c :: rest))

/-- A character that a host may have. -/
def isHostChar (c : Char) : Bool :=
  0x20 < c.toNat && c.toNat != 0x7F &&
    !(['#', '/', ':', '<', '>', '?', '@', '[', '\\', ']', '^', '|', '%'].contains c)

/-- A host as the request names it: an address in brackets, or a name in small letters. -/
def hostText? (cs : List Char) : Option String :=
  match cs with
  | '[' :: rest =>
    let inner := rest.takeWhile (· != ']')
    if rest.drop inner.length = [']'] ∧ inner ≠ [] ∧
        inner.all (fun c => (hexValue? c).isSome || c == ':' || c == '.') then
      some (String.ofList (cs.map Char.toLower))
    else none
  | _ =>
    if cs ≠ [] ∧ cs.all isHostChar then some (String.ofList (cs.map Char.toLower)) else none

/-- Host and port of an authority without user name; the usual port is left out. -/
def hostPort? (secure : Bool) (cs : List Char) : Option String :=
  let head := match cs with
    | '[' :: _ => cs.takeWhile (· != ']')
    | _ => []
  let host := head ++ (cs.drop head.length).takeWhile (· != ':')
  match hostText? host, cs.drop host.length with
  | none, _ => none
  | some name, [] => some name
  | some name, _ :: digits =>
    if digits.isEmpty then some name
    else
      match readDigits 65535 0 digits with
      | .error _ => none
      | .ok port =>
        if port = (if secure then 443 else 80) then some name
        else some (name ++ ":" ++ toString port)

/-- An authority less the user name in front of its last `@`. -/
def afterUser (cs : List Char) : List Char := (cs.reverse.takeWhile (· != '@')).reverse

/-- Whether a scheme is that of an encrypted connection; `none` if it is neither of the web's. -/
def isSecure? (scheme : List Char) : Option Bool :=
  match String.ofList (scheme.map Char.toLower) with
  | "http" => some false
  | "https" => some true
  | _ => none

/-- The address that a text names, `none` if it is not a web address. -/
def parse? (s : String) : Option Url :=
  let cs := essential s.toList
  let scheme := cs.takeWhile (· != ':')
  match isSecure? scheme, cs.drop scheme.length with
  | some secure, _ :: rest =>
    let rest := rest.dropWhile isSlash
    let authority := rest.takeWhile fun c => !endsAuthority c
    let rest := rest.drop authority.length
    let path := rest.takeWhile fun c => !endsPath c
    match hostPort? secure (afterUser authority) with
    | none => none
    | some authority =>
      let query? := match rest.drop path.length with
        | '?' :: query =>
          some (percentEncode isQueryPlain (String.ofList (query.takeWhile (· != '#'))))
        | _ => none
      some ⟨secure, authority, segments path, query?⟩
  | _, _ => none

/-- The address with further named values in its query. -/
def addPairs (u : Url) (pairs : List (String × String)) : Url :=
  let more := formEncodePairs pairs
  match u.query? with
  | none => { u with query? := some more }
  | some query => { u with query? := some (if query == "" then more else query ++ "&" ++ more) }

/-- Path and query as a request names them. -/
def target (u : Url) : String :=
  "/" ++ joinWith "/" u.path ++ u.query?.elim "" ("?" ++ ·)

end Url
end Net
end Casework
