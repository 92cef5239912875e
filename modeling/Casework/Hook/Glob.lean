/-
# Glob conditions

A condition is a list of globs between commas, each trimmed, blank ones left out; it accepts a
name when one of them matches the whole of it. In a glob `*` stands for any run of characters
and `?` for one character, a line feed excepted, and every other character for itself without
regard to case. A condition without globs is refused.

Matching works backwards over the glob: for each token it keeps one truth value per suffix of
the name, namely whether the glob from that token on matches the suffix (`Glob.table`).
-/

import Casework.Catalog.Record
import Casework.Text.CaseFold

namespace Casework

open Text

/-- A part of a glob. -/
inductive GlobToken where
  /-- Any run of characters but line feeds. -/
  | run
  /-- One character but a line feed. -/
  | one
  /-- The character, without regard to case. -/
  | char (c : Char)
deriving DecidableEq, Repr

/-- A glob is a sequence of tokens. -/
abbrev Glob := List GlobToken

namespace Glob

/-- The token that a character of a pattern stands for. -/
def tokenOf (c : Char) : GlobToken :=
  if c = '*' then .run else if c = '?' then .one else .char c

/-- The glob of a pattern. -/
def ofPattern (s : String) : Glob := s.toList.map tokenOf

/-- The token matches the one character. -/
def tokenMatches (t : GlobToken) (c : Char) : Bool :=
  match t with
  | .run => c != '\n'
  | .one => c != '\n'
  | .char d => sameFolded d c

/-- The truth values for the suffixes of the name, one token further to the front: `after` has
one value more than the name has characters. -/
def extend (t : GlobToken) : List Char → List Bool → List Bool
  | c :: cs, here :: after =>
    let rest := extend t cs after
    match t with
    | .run => (here || (tokenMatches t c && rest.headD false)) :: rest
    | _ => (tokenMatches t c && after.headD false) :: rest
  | [], here :: _ =>
    match t with
    | .run => [here]
    | _ => [false]
  | _, [] => []

/-- For each suffix of the name whether the glob matches it, the whole name first. -/
def table (name : List Char) : Glob → List Bool
  | [] => List.replicate name.length false ++ [true]
  | t :: ts => extend t name (table name ts)

/-- The glob matches the whole name. -/
def accepts (g : Glob) (name : String) : Bool := (table name.toList g).headD false

end Glob

/-- The globs of a condition. -/
def conditionGlobs (condition : String) : Except Error (List Glob) :=
  match commaPieces condition with
  | [] => .error (.validation "hook condition is empty")
  | pieces => .ok (pieces.map Glob.ofPattern)

/-- How hook conditions are checked and evaluated. -/
structure RuleEngine where
  /-- Refuses a condition that can never be evaluated. -/
  validate : String → Except Error Unit
  /-- The condition accepts the item. -/
  evaluate : String → Evidence → Except Error Bool

/-- Conditions are globs over the name of the item. -/
def namePatternRules : RuleEngine where
  validate condition := (conditionGlobs condition).map fun _ => ()
  evaluate condition e := (conditionGlobs condition).map fun globs =>
    globs.any fun g => g.accepts e.name

end Casework
