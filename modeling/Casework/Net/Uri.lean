/-
# Well-formed URIs

A URI is a path, an authority alone, or a scheme with an authority and a path. `isUri` checks
the characters of each part: an authority has at most one colon outside brackets and user
names, and no percent sign in the host; a path may hold bytes above `7F` and braces; a fragment
is not looked at.
-/

import Casework.Text.Utf8

namespace Casework
namespace Net

open Text

/-- A character of a scheme. -/
def isSchemeChar (c : Char) : Bool := c.isAlphanum || c == '+' || c == '-' || c == '.'

/-- A character that an authority may have as it is. -/
def isAuthorityChar (c : Char) : Bool :=
  c.isAlphanum || "!$&'()*+,-.:;=@[]_~".toList.contains c

/-- What has been seen of an authority. -/
structure AuthorityScan where
  colons : Nat := 0
  opened : Bool := false
  closed : Bool := false
  percent : Bool := false
  /-- The last character was the sign after a user name. -/
  atSign : Bool := false

/-- One more character of an authority. -/
def AuthorityScan.step (s : AuthorityScan) (c : Char) : Option AuthorityScan :=
  let s' := { s with atSign := false }
  if c = ':' then if 8 ≤ s.colons then none else some { s' with colons := s.colons + 1 }
  else if c = '[' then
    if s.percent ∨ s.opened then none else some { s' with opened := true }
  else if c = ']' then
    if !s.opened ∨ s.closed then none
    else some { s' with closed := true, colons := 0, percent := false }
  else if c = '@' then some { s with colons := 0, percent := false, atSign := true }
  else if c = '%' then some { s' with percent := true }
  else if isAuthorityChar c then some s'
  else none

/-- The authority is well-formed. -/
def isAuthority (cs : List Char) : Bool :=
  match cs.foldlM AuthorityScan.step {} with
  | none => false
  | some s => s.opened == s.closed && s.colons ≤ 1 && !s.atSign && !s.percent

/-- A character that a path may have. -/
def isPathChar (c : Char) : Bool :=
  let n := c.toNat
  n == 0x21 || (0x24 ≤ n && n ≤ 0x3B) || n == 0x3D || (0x40 ≤ n && n ≤ 0x5F) ||
    (0x61 ≤ n && n ≤ 0x7E) || 0x7F ≤ n || c == '"'

/-- A character that a query may have. -/
def isQueryChar (c : Char) : Bool :=
  let n := c.toNat
  n == 0x21 || (0x24 ≤ n && n ≤ 0x3B) || n == 0x3D || 0x3F ≤ n

/-- The path with its query is well-formed. -/
def isPathAndQuery (cs : List Char) : Bool :=
  let cs := cs.takeWhile (· != '#')
  let path := cs.takeWhile (· != '?')
  path.all isPathChar && (cs.drop (path.length + 1)).all isQueryChar

/-- The length of the scheme, if the text begins with one. -/
def schemeLength? (cs : List Char) : Option Nat :=
  let scheme := cs.takeWhile isSchemeChar
  if (cs.drop scheme.length).take 3 = [':', '/', '/'] ∧ 3 < cs.length then some scheme.length
  else none

/-- The text is a URI. -/
def isUri (s : String) : Bool :=
  let cs := s.toList
  if cs.isEmpty ∨ 65534 < s.utf8ByteSize then false
  else if cs = ['*'] then true
  else if cs.head? = some '/' then isPathAndQuery cs
  else
    match schemeLength? cs with
    | none => isAuthority cs
    | some n =>
      let rest := cs.drop (n + 3)
      let authority := rest.takeWhile fun c => c != '/' && c != '?' && c != '#'
      n ≤ 64 && !authority.isEmpty && isAuthority authority &&
        isPathAndQuery (rest.drop authority.length)

end Net
end Casework
