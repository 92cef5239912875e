/-
# Reading JSON from the front

A reader takes a value off the front of the text and leaves the rest. Faults are found in the
order of the text: what stands first decides, whether it is malformed or well-formed and not
what was asked for. Only the second kind has a wording, and it names the place by a path.

Values nobody asked for are skipped: their nesting has no limit, numbers in them no range, and
`\u` escapes need four digits but not a character. Where a value of any kind was asked for, these
limits hold.
-/

import Casework.Json.Basic
import Casework.Text.Numeral
import Casework.Text.Percent
import Casework.Decimal.Shortest

namespace Casework
namespace Json

open Text

/-- A step into a value. -/
inductive Step where
  | member (name : String)
  | item (index : Nat)
deriving DecidableEq, Repr

/-- Why a text is refused. -/
inductive Fault where
  /-- The text is not JSON. -/
  | malformed
  /-- The text is JSON so far, but not what was asked for. -/
  | mismatch (path : List Step) (cause : String)
deriving DecidableEq, Repr

/-- The fault seen from one step further out. -/
def Fault.under (step : Step) : Fault → Fault
  | .malformed => .malformed
  | .mismatch path cause => .mismatch (step :: path) cause

/-- A mismatch at the place itself. -/
def Fault.here (cause : String) : Fault := .mismatch [] cause

/-- What the text holds where something else was wanted. -/
def Fault.invalidType (found wanted : String) : Fault :=
  .here ("invalid type: " ++ found ++ ", expected " ++ wanted)

/-- The path as `status.Running` or `[0].name`. -/
def pathText : List Step → String
  | [] => ""
  | .member name :: rest => name ++ tail rest
  | .item i :: rest => "[" ++ toString i ++ "]" ++ tail rest
where
  /-- The steps after the first. -/
  tail : List Step → String
    | [] => ""
    | .member name :: rest => "." ++ name ++ tail rest
    | .item i :: rest => "[" ++ toString i ++ "]" ++ tail rest

/-- A reader takes a value off the front of the text and leaves the rest. -/
abbrev Reader (α : Type) := List Char → Except Fault (α × List Char)

/-- The blanks of JSON. -/
def isSpace (c : Char) : Bool := c == ' ' || c == '\n' || c == '\t' || c == '\r'

/-- Drops the blanks at the front. -/
def skipSpace (cs : List Char) : List Char := cs.dropWhile isSpace

/-- What is left after the given characters. -/
def expect : List Char → List Char → Except Fault (List Char)
  | [], cs => .ok cs
  | w :: ws, c :: cs => if w = c then expect ws cs else .error .malformed
  | _ :: _, [] => .error .malformed

/-! ## Texts -/

/-- Four hexadecimal digits as a number. -/
def hexQuad : List Char → Option (Nat × List Char)
  | a :: b :: c :: d :: cs =>
    match hexValue? a, hexValue? b, hexValue? c, hexValue? d with
    | some a, some b, some c, some d => some (((a * 16 + b) * 16 + c) * 16 + d, cs)
    | _, _, _, _ => none
  | _ => none

/-- The character that a one-letter escape stands for. -/
def plainEscape? (c : Char) : Option Char :=
  if c = '"' then some '"'
  else if c = '\\' then some '\\'
  else if c = '/' then some '/'
  else if c = 'b' then some '\x08'
  else if c = 'f' then some '\x0c'
  else if c = 'n' then some '\n'
  else if c = 'r' then some '\r'
  else if c = 't' then some '\t'
  else none

/-- The character after `\u`: one code unit, or a surrogate pair written as two escapes. -/
def unicodeEscape? (cs : List Char) : Option (Char × List Char) :=
  match hexQuad cs with
  | none => none
  | some (n, rest) =>
    if 0xD800 ≤ n ∧ n < 0xDC00 then
      match rest with
      | '\\' :: 'u' :: rest =>
        match hexQuad rest with
        | some (m, rest) =>
          if 0xDC00 ≤ m ∧ m < 0xE000 then
            some (Char.ofNat (0x10000 + (n - 0xD800) * 0x400 + (m - 0xDC00)), rest)
          else none
        | none => none
      | _ => none
    else if 0xDC00 ≤ n ∧ n < 0xE000 then none
    else some (Char.ofNat n, rest)

/-- One character of a text, `none` at its closing quote. -/
def textChar : Reader (Option Char)
  | [] => .error .malformed
  | '"' :: cs => .ok (none, cs)
  | '\\' :: 'u' :: cs =>
    match unicodeEscape? cs with
    | some (c, cs) => .ok (some c, cs)
    | none => .error .malformed
  | '\\' :: c :: cs =>
    match plainEscape? c with
    | some d => .ok (some d, cs)
    | none => .error .malformed
  | '\\' :: [] => .error .malformed
  | c :: cs => if c.toNat < 0x20 then .error .malformed else .ok (some c, cs)

/-- The characters of a text up to its closing quote. -/
def textChars : Nat → Reader (List Char)
  | 0, _ => .error .malformed
  | fuel + 1, cs =>
    match textChar cs with
    | .error e => .error e
    | .ok (none, rest) => .ok ([], rest)
    | .ok (some c, rest) =>
      match textChars fuel rest with
      | .error e => .error e
      | .ok (ds, rest) => .ok (c :: ds, rest)

/-- A text whose opening quote has been taken. -/
def textBody : Reader String := fun cs =>
  match textChars (cs.length + 1) cs with
  | .error e => .error e
  | .ok (ds, rest) => .ok (String.ofList ds, rest)

/-! ## Numbers -/

/-- A number as the text holds it: an integer within 64 bits, or a floating-point number. -/
inductive Num where
  | integer (n : Int)
  | float (x : Float)

/-- How a message names the number. -/
def Num.found : Num → String
  | .integer n => "integer `" ++ toString n ++ "`"
  | .float x => "floating point `" ++ Decimal.floatText x ++ "`"

/-- The float `significand · 10 ^ exponent`, in steps of at most `10 ^ 308`; `none` if it is too
large. -/
def floatOf? (significand : Nat) (exponent : Int) : Option Float :=
  go 6 (UInt64.ofNat significand).toFloat exponent
where
  /-- Scales down by `10 ^ 308` until the exponent is small, then once more. -/
  go : Nat → Float → Int → Option Float
    | 0, f, _ => some f
    | fuel + 1, f, e =>
      if e.natAbs ≤ 308 then
        if 0 ≤ e then
          let g := f * Float.ofScientific 1 false e.toNat
          if g.isInf then none else some g
        else some (f / Float.ofScientific 1 false e.natAbs)
      else if f == 0.0 then some f
      else if 0 ≤ e then none
      else go fuel (f / Float.ofScientific 1 false 308) (e + 308)

/-- The float with its sign as a number. -/
def signedFloat (negative : Bool) (significand : Nat) (exponent : Int) : Except Fault Num :=
  match floatOf? significand exponent with
  | some x => .ok (.float (if negative then -x else x))
  | none => .error .malformed

/-- Digits taken up as long as the value fits 64 bits: the value, the count of digits taken and
of digits left out. -/
def takeDigits (significand : Nat) (ds : List Char) : Nat × Nat × Nat :=
  match ds with
  | [] => (significand, 0, 0)
  | d :: rest =>
    let next := significand * 10 + (d.toNat - '0'.toNat)
    if next ≤ maxU64 then
      let (s, taken, left) := takeDigits next rest
      (s, taken + 1, left)
    else (significand, 0, rest.length + 1)

/-- The largest exponent that is read. -/
def maxExponent : Nat := 2147483647

/-- The exponent after `e`, and what follows: a sign and at least one digit. -/
def readExponent (negative : Bool) (significand : Nat) (exponent : Int) : Reader Num := fun cs =>
  let (below, cs) := match cs with
    | '+' :: cs => (false, cs)
    | '-' :: cs => (true, cs)
    | _ => (false, cs)
  let ds := cs.takeWhile Char.isDigit
  let rest := cs.drop ds.length
  if ds.isEmpty then .error .malformed
  else
    let e := ds.foldl (fun n d => n * 10 + (d.toNat - '0'.toNat)) 0
    if maxExponent < e then
      if significand != 0 && !below then .error .malformed
      else .ok (.float (if negative then -0.0 else 0.0), rest)
    else
      match signedFloat negative significand (if below then exponent - e else exponent + e) with
      | .ok n => .ok (n, rest)
      | .error f => .error f

/-- What follows the digits before the point. -/
def readScale (negative : Bool) (significand : Nat) (exponent : Int) : Reader Num := fun cs =>
  match cs with
  | 'e' :: cs => readExponent negative significand exponent cs
  | 'E' :: cs => readExponent negative significand exponent cs
  | _ =>
    match signedFloat negative significand exponent with
    | .ok n => .ok (n, cs)
    | .error f => .error f

/-- A fraction after the point: at least one digit. -/
def readFraction (negative : Bool) (significand : Nat) (exponent : Int) : Reader Num := fun cs =>
  let ds := cs.takeWhile Char.isDigit
  let rest := cs.drop ds.length
  if ds.isEmpty then .error .malformed
  else
    let (s, taken, _) := takeDigits significand ds
    readScale negative s (exponent - taken) rest

/-- An integer that fits 64 bits, negative ones included; the rest are floats. -/
def integerOrFloat (negative : Bool) (n : Nat) : Num :=
  if negative then
    if n = 0 ∨ maxI64 + 1 < n then .float (-(UInt64.ofNat n).toFloat) else .integer (-(n : Int))
  else .integer n

/-- A number after its sign. -/
def readUnsignedNumber (negative : Bool) : Reader Num := fun cs =>
  let ds := cs.takeWhile Char.isDigit
  let rest := cs.drop ds.length
  match ds with
  | [] => .error .malformed
  | d :: more =>
    if d = '0' ∧ more ≠ [] then .error .malformed
    else
      let (s, _, left) := takeDigits 0 ds
      match rest with
      | '.' :: cs => readFraction negative s left cs
      | 'e' :: cs => readExponent negative s left cs
      | 'E' :: cs => readExponent negative s left cs
      | _ =>
        if left = 0 then .ok (integerOrFloat negative s, rest)
        else
          match signedFloat negative s left with
          | .ok n => .ok (n, rest)
          | .error f => .error f

/-- A number. -/
def readNumber : Reader Num
  | '-' :: cs => readUnsignedNumber true cs
  | cs => readUnsignedNumber false cs

/-! ## Anything else -/

/-- The fault of a value that is not what was wanted. -/
def unexpected (wanted : String) (cs : List Char) : Fault :=
  match cs with
  | 'n' :: rest => word rest ['u', 'l', 'l'] "null"
  | 't' :: rest => word rest ['r', 'u', 'e'] "boolean `true`"
  | 'f' :: rest => word rest ['a', 'l', 's', 'e'] "boolean `false`"
  | '"' :: rest =>
    match textBody rest with
    | .ok (s, _) => .invalidType ("string " ++ quote s) wanted
    | .error e => e
  | '[' :: _ => .invalidType "sequence" wanted
  | '\x7b' :: _ => .invalidType "map" wanted
  | c :: _ =>
    if c = '-' ∨ c.isDigit then
      match readNumber cs with
      | .ok (n, _) => .invalidType n.found wanted
      | .error e => e
    else .malformed
  | [] => .malformed
where
  /-- One of the words `null`, `true` and `false`, whose first letter is known. -/
  word (rest letters : List Char) (found : String) : Fault :=
    match expect letters rest with
    | .ok _ => .invalidType found wanted
    | .error e => e

/-! ## Skipping -/

/-- What is left after one or more digits. -/
def skipDigits (cs : List Char) : Except Fault (List Char) :=
  let rest := cs.dropWhile Char.isDigit
  if rest.length < cs.length then .ok rest else .error .malformed

/-- What is left after an exponent, if there is one. -/
def skipExponent : List Char → Except Fault (List Char)
  | c :: cs =>
    if c = 'e' ∨ c = 'E' then
      match cs with
      | '+' :: cs => skipDigits cs
      | '-' :: cs => skipDigits cs
      | _ => skipDigits cs
    else .ok (c :: cs)
  | [] => .ok []

/-- What is left after an unsigned number. -/
def skipNumber (cs : List Char) : Except Fault (List Char) := do
  let rest ← skipDigits cs
  if cs.head? = some '0' ∧ rest.length + 1 < cs.length then .error .malformed
  else
    match rest with
    | '.' :: more => skipDigits more >>= skipExponent
    | _ => skipExponent rest

/-- What is left after a text whose opening quote has been taken. -/
def skipText : List Char → Except Fault (List Char)
  | [] => .error .malformed
  | '"' :: cs => .ok cs
  | '\\' :: 'u' :: a :: b :: c :: d :: cs =>
    if (hexQuad [a, b, c, d]).isSome then skipText cs else .error .malformed
  | '\\' :: c :: cs => if (plainEscape? c).isSome then skipText cs else .error .malformed
  | '\\' :: [] => .error .malformed
  | c :: cs => if c.toNat < 0x20 then .error .malformed else skipText cs

/-- How texts and numbers are passed over. -/
structure SkipRule where
  /-- What is left after a text whose opening quote has been taken. -/
  text : List Char → Except Fault (List Char)
  /-- What is left after an unsigned number. -/
  number : List Char → Except Fault (List Char)

/-- Texts and numbers only have to be well-formed. -/
def SkipRule.lenient : SkipRule := ⟨skipText, skipNumber⟩

/-- Texts have to stand for characters and numbers to be within the range of floats. -/
def SkipRule.strict : SkipRule where
  text cs := (textBody cs).map Prod.snd
  number cs := (readUnsignedNumber false cs).map Prod.snd

/-- What is left after a key and its colon, the opening quote of the key being due. -/
def skipKey (rule : SkipRule) (cs : List Char) : Except Fault (List Char) :=
  match skipSpace cs with
  | '"' :: cs => do
    let rest ← rule.text cs
    match skipSpace rest with
    | ':' :: rest => .ok rest
    | _ => .error .malformed
  | _ => .error .malformed

mutual
/-- What is left after one value with at most `depth` arrays and objects inside one another. -/
def skipValue (rule : SkipRule) (depth : Nat) : Nat → List Char → Except Fault (List Char)
  | 0, _ => .error .malformed
  | fuel + 1, cs =>
    match skipSpace cs, depth with
    | 'n' :: rest, _ => expect ['u', 'l', 'l'] rest
    | 't' :: rest, _ => expect ['r', 'u', 'e'] rest
    | 'f' :: rest, _ => expect ['a', 'l', 's', 'e'] rest
    | '"' :: rest, _ => rule.text rest
    | '-' :: rest, _ => rule.number rest
    | '[' :: _, 0 => .error .malformed
    | '\x7b' :: _, 0 => .error .malformed
    | '[' :: rest, depth + 1 =>
      match skipSpace rest with
      | ']' :: rest => .ok rest
      | _ => skipValue rule depth fuel rest >>= skipItems rule depth fuel
    | '\x7b' :: rest, depth + 1 =>
      match skipSpace rest with
      | '\x7d' :: rest => .ok rest
      | _ => skipKey rule rest >>= skipValue rule depth fuel >>= skipMembers rule depth fuel
    | rest, _ => rule.number rest

/-- What is left after the items of an array that follow one. -/
def skipItems (rule : SkipRule) (depth : Nat) : Nat → List Char → Except Fault (List Char)
  | 0, _ => .error .malformed
  | fuel + 1, cs =>
    match skipSpace cs with
    | ']' :: rest => .ok rest
    | ',' :: rest => skipValue rule depth fuel rest >>= skipItems rule depth fuel
    | _ => .error .malformed

/-- What is left after the members of an object that follow one. -/
def skipMembers (rule : SkipRule) (depth : Nat) : Nat → List Char → Except Fault (List Char)
  | 0, _ => .error .malformed
  | fuel + 1, cs =>
    match skipSpace cs with
    | '\x7d' :: rest => .ok rest
    | ',' :: rest =>
      skipKey rule rest >>= skipValue rule depth fuel >>= skipMembers rule depth fuel
    | _ => .error .malformed
end

/-- What is left after one value that nobody asked for. -/
def skipAny (cs : List Char) : Except Fault (List Char) :=
  skipValue .lenient cs.length (2 * cs.length + 2) cs

/-- The most arrays and objects that a value of any kind has inside one another. -/
def depthLimit : Nat := 127

/-- What is left after one value of any kind. -/
def passValue (cs : List Char) : Except Fault (List Char) :=
  skipValue .strict depthLimit (2 * cs.length + 2) cs

end Json
end Casework
