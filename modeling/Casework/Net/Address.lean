/-
# Socket addresses

An internet address with a port: `192.0.2.7:4711`, or `[2001:db8::1]:4711` with an optional
scope as in `[fe80::1%3]:80`. The numbers of a version 4 address have no zeros in front. In a
version 6 address one `::` stands for at least one group of zeros, and the last two groups may
be written as a version 4 address. Written back, the first longest run of two or more zero
groups becomes `::`.
-/

import Casework.Text.Percent
import Casework.Text.Numeral

namespace Casework

open Text

/-- An internet address. -/
inductive InternetAddress where
  | v4 (octets : List Nat)
  | v6 (groups : List Nat) (scope : Nat)
deriving DecidableEq, Repr

/-- An internet address with a port. -/
structure SocketAddress where
  ip : InternetAddress
  port : Nat
deriving DecidableEq, Repr

namespace SocketAddress

/-- A scan takes the front of the text and leaves the rest. -/
abbrev Scan (α : Type) := List Char → Option (α × List Char)

/-- The value of a digit in a base. -/
def digitIn (base : Nat) (c : Char) : Option Nat :=
  (hexValue? c).bind fun v => if v < base then some v else none

/-- The digits at the front. -/
def digits (base : Nat) : List Char → List Nat × List Char
  | [] => ([], [])
  | c :: cs =>
    match digitIn base c with
    | some v =>
      let (vs, rest) := digits base cs
      (v :: vs, rest)
    | none => ([], c :: cs)

/-- A number of at most `most` digits and at most `limit`; zeros in front only where
`zeros` allows them. -/
def number (base : Nat) (most : Option Nat) (zeros : Bool) (limit : Nat) : Scan Nat := fun cs =>
  let (ds, rest) := digits base cs
  let n := ds.foldl (fun n d => n * base + d) 0
  if ds.isEmpty then none
  else if most.any (· < ds.length) then none
  else if !zeros && ds.head? == some 0 && ds.length != 1 then none
  else if limit < n then none
  else some (n, rest)

/-- What is left after a character. -/
def mark (c : Char) : List Char → Option (List Char)
  | d :: cs => if c = d then some cs else none
  | [] => none

/-- The four numbers of a version 4 address. -/
def octets : Scan (List Nat) := fun cs => do
  let octet := number 10 (some 3) false 255
  let (a, cs) ← octet cs
  let (b, cs) ← mark '.' cs >>= octet
  let (c, cs) ← mark '.' cs >>= octet
  let (d, cs) ← mark '.' cs >>= octet
  some ([a, b, c, d], cs)

/-- Groups between colons, at most `limit` of them; `first` says that no colon is due before
the next one. Tells also whether a version 4 address ended them. -/
def groups (first : Bool) : Nat → List Char → List Nat × Bool × List Char
  | 0, cs => ([], false, cs)
  | limit + 1, cs =>
    let start := if first then some cs else mark ':' cs
    let embedded := if 0 < limit then start.bind octets else none
    match embedded with
    | some ([a, b, c, d], rest) => ([a * 256 + b, c * 256 + d], true, rest)
    | _ =>
      match start.bind (number 16 (some 4) true 0xFFFF) with
      | some (g, rest) =>
        let (gs, dotted, rest) := groups false limit rest
        (g :: gs, dotted, rest)
      | none => ([], false, cs)

/-- The eight groups of a version 6 address. -/
def sixGroups : Scan (List Nat) := fun cs =>
  let (head, dotted, rest) := groups true 8 cs
  if head.length = 8 then some (head, rest)
  else if dotted then none
  else do
    let rest ← mark ':' rest >>= mark ':'
    let (tail, _, rest) := groups true (7 - head.length) rest
    some (head ++ List.replicate (8 - head.length - tail.length) 0 ++ tail, rest)

/-- The port after its colon. -/
def portOf : Scan Nat := fun cs => mark ':' cs >>= number 10 none true 65535

/-- The scope after its percent sign, 0 if there is none. -/
def scopeOf (cs : List Char) : Nat × List Char :=
  match mark '%' cs >>= number 10 none true 4294967295 with
  | some r => r
  | none => (0, cs)

/-- The address that a text names. -/
def parse? (s : String) : Option SocketAddress :=
  let four : Option SocketAddress := do
    let (os, cs) ← octets s.toList
    let (port, cs) ← portOf cs
    if cs.isEmpty then some ⟨.v4 os, port⟩ else none
  four.orElse fun _ => do
    let cs ← mark '[' s.toList
    let (gs, cs) ← sixGroups cs
    let (scope, cs) := scopeOf cs
    let cs ← mark ']' cs
    let (port, cs) ← portOf cs
    if cs.isEmpty then some ⟨.v6 gs scope, port⟩ else none

/-- The longest run of zero groups, the first one if there are several: its start and length. -/
def zeroRun (gs : List Nat) : Nat × Nat :=
  (List.range gs.length).foldl (fun best start =>
    let len := ((gs.drop start).takeWhile (· == 0)).length
    if best.2 < len then (start, len) else best) (0, 0)

/-- Groups in hexadecimal with colons between them. -/
def groupsText (gs : List Nat) : String :=
  joinWith ":" (gs.map fun g => String.ofList (Nat.toDigits 16 g))

/-- Four numbers with points between them. -/
def octetsText (os : List Nat) : String := joinWith "." (os.map toString)

/-- The text of a version 6 address. -/
def sixText (gs : List Nat) : String :=
  match gs with
  | [0, 0, 0, 0, 0, 0xFFFF, a, b] =>
    "::ffff:" ++ octetsText [a / 256, a % 256, b / 256, b % 256]
  | _ =>
    let (start, len) := zeroRun gs
    if 1 < len then groupsText (gs.take start) ++ "::" ++ groupsText (gs.drop (start + len))
    else groupsText gs

/-- The text of an address. -/
def text (a : SocketAddress) : String :=
  match a.ip with
  | .v4 os => octetsText os ++ ":" ++ toString a.port
  | .v6 gs scope =>
    "[" ++ sixText gs ++ (if scope = 0 then "" else "%" ++ toString scope) ++ "]:" ++
      toString a.port

end SocketAddress
end Casework
