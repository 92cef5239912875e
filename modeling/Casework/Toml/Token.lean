/-
# The parts of a TOML document

Scans for blanks, line ends, comments, keys, texts, numbers and dates. Each takes the front of
the text and leaves the rest, or refuses.
-/

import Casework.Toml.Node
import Casework.Text.Numeral
import Casework.Text.Percent
import Casework.Timestamp.Basic

namespace Casework
namespace Toml

open Text

/-- A scan takes the front of the text and leaves the rest. -/
abbrev Scan (α : Type) := List Char → Option (α × List Char)

/-- Blanks and tabs. -/
def isBlankChar (c : Char) : Bool := c == ' ' || c == '\t'

/-- What is left after blanks and tabs. -/
def skipBlanks (cs : List Char) : List Char := cs.dropWhile isBlankChar

/-- What is left after a line end, `none` if none is due. -/
def lineEnd? : List Char → Option (List Char)
  | '\n' :: cs => some cs
  | '\r' :: '\n' :: cs => some cs
  | _ => none

/-- A character that may stand in a comment or text: everything but control characters, of
which only the tab is allowed. -/
def isPlain (c : Char) : Bool := c == '\t' || (0x20 ≤ c.toNat && c.toNat != 0x7F)

/-- What is left after a comment, if there is one. -/
def skipComment : List Char → List Char
  | '#' :: cs => cs.dropWhile isPlain
  | cs => cs

/-- What is left after blanks, a comment and the end of the line or of the text. -/
def endLine (cs : List Char) : Option (List Char) :=
  match skipComment (skipBlanks cs) with
  | [] => some []
  | rest => lineEnd? rest

/-- What is left after blanks, line ends and comments. -/
def skipLines : Nat → List Char → List Char
  | 0, cs => cs
  | fuel + 1, cs =>
    match cs with
    | c :: rest =>
      if isBlankChar c then skipLines fuel rest
      else
        match lineEnd? (skipComment cs) with
        | some rest => skipLines fuel rest
        | none => cs
    | [] => []

/-! ## Texts -/

/-- The character of an escape with that many hexadecimal digits. -/
def hexEscape (count : Nat) : Scan Char := fun cs =>
  let ds := cs.take count
  match ds.mapM hexValue? with
  | some vs =>
    let n := vs.foldl (fun n v => n * 16 + v) 0
    if vs.length = count ∧ n.isValidChar then some (Char.ofNat n, cs.drop count) else none
  | none => none

/-- The character after a backslash. -/
def escape : Scan Char
  | 'b' :: cs => some ('\x08', cs)
  | 't' :: cs => some ('\t', cs)
  | 'n' :: cs => some ('\n', cs)
  | 'f' :: cs => some ('\x0c', cs)
  | 'r' :: cs => some ('\r', cs)
  | '"' :: cs => some ('"', cs)
  | '\\' :: cs => some ('\\', cs)
  | 'u' :: cs => hexEscape 4 cs
  | 'U' :: cs => hexEscape 8 cs
  | _ => none

/-- A text on one line, its opening quote taken; `quote` ends it, and escapes are read when it
is the double quote. -/
def lineText (quote : Char) : Nat → Scan (List Char)
  | 0, _ => none
  | fuel + 1, cs =>
    match cs with
    | [] => none
    | c :: rest =>
      if c = quote then some ([], rest)
      else if c = '\\' ∧ quote = '"' then
        match escape rest with
        | some (d, rest) => (lineText quote fuel rest).map fun (ds, rest) => (d :: ds, rest)
        | none => none
      else if isPlain c then (lineText quote fuel rest).map fun (ds, rest) => (c :: ds, rest)
      else none

/-- The line end after a backslash, with the blanks around it and the blank lines after it. -/
def foldedLine (cs : List Char) : Option (List Char) :=
  (lineEnd? (skipBlanks cs)).map fun rest => dropLines rest.length rest
where
  /-- What is left after blanks and line ends. -/
  dropLines : Nat → List Char → List Char
    | 0, cs => cs
    | fuel + 1, cs =>
      match cs with
      | c :: rest =>
        if isBlankChar c then dropLines fuel rest
        else
          match lineEnd? cs with
          | some rest => dropLines fuel rest
          | none => cs
      | [] => []

/-- A text over several lines, its three opening quotes taken. Up to two quotes may stand in it
side by side, also right before the closing three. -/
def blockText (quote : Char) : Nat → Scan (List Char)
  | 0, _ => none
  | fuel + 1, cs =>
    match cs with
    | [] => none
    | c :: rest =>
      if c = quote then
        let run := (cs.takeWhile (· == quote)).length
        if run < 3 then
          (blockText quote fuel (cs.drop run)).map fun (ds, rest) =>
            (List.replicate run quote ++ ds, rest)
        else
          let kept := min (run - 3) 2
          some (List.replicate kept quote, cs.drop (kept + 3))
      else if c = '\\' ∧ quote = '"' then
        match foldedLine rest with
        | some rest => blockText quote fuel rest
        | none =>
          match escape rest with
          | some (d, rest) => (blockText quote fuel rest).map fun (ds, rest) => (d :: ds, rest)
          | none => none
      else
        match lineEnd? cs with
        | some rest => (blockText quote fuel rest).map fun (ds, rest) => ('\n' :: ds, rest)
        | none =>
          if isPlain c then (blockText quote fuel rest).map fun (ds, rest) => (c :: ds, rest)
          else none

/-- A text value: the quote three times opens one over several lines, whose first line end does
not count. -/
def text : Scan String
  | [] => none
  | q :: cs =>
    if q ≠ '"' ∧ q ≠ '\'' then none
    else
      let read :=
        if cs.take 2 = [q, q] then
          let body := cs.drop 2
          blockText q (body.length + 1) ((lineEnd? body).getD body)
        else lineText q (cs.length + 1) cs
      read.map fun (ds, rest) => (String.ofList ds, rest)

/-! ## Keys -/

/-- A character of a key without quotes. -/
def isBareKeyChar (c : Char) : Bool := c.isAlphanum || c == '_' || c == '-'

/-- One key: bare, or a text on one line. -/
def simpleKey : Scan String := fun cs =>
  match cs with
  | [] => none
  | q :: rest =>
    if q = '"' ∨ q = '\'' then
      (lineText q (rest.length + 1) rest).map fun (ds, rest) => (String.ofList ds, rest)
    else
      let ds := cs.takeWhile isBareKeyChar
      if ds.isEmpty then none else some (String.ofList ds, cs.drop ds.length)

/-- The most keys in a row, and the most values inside one another. -/
def depthLimit : Nat := 80

/-- Keys between points, blanks around each. -/
def keyPath : Nat → Scan (List String)
  | 0, _ => none
  | fuel + 1, cs =>
    match simpleKey (skipBlanks cs) with
    | none => none
    | some (key, rest) =>
      match skipBlanks rest with
      | '.' :: rest => (keyPath fuel rest).map fun (keys, rest) => (key :: keys, rest)
      | rest => some ([key], rest)

/-- A key path of allowed length. -/
def key : Scan (List String) := keyPath (depthLimit - 1)

/-! ## Numbers and dates -/

/-- Digits of a class with single underscores between them. -/
def digitRun (isDigit : Char → Bool) : Scan (List Char) := fun cs =>
  match cs with
  | [] => none
  | c :: rest => if isDigit c then some (more c rest) else none
where
  /-- The digits after one. -/
  more (c : Char) (cs : List Char) : List Char × List Char :=
    match cs with
    | '_' :: d :: rest =>
      if isDigit d then
        let (ds, rest) := more d rest
        (c :: ds, rest)
      else ([c], cs)
    | d :: rest =>
      if isDigit d then
        let (ds, rest) := more d rest
        (c :: ds, rest)
      else ([c], cs)
    | [] => ([c], [])

/-- A sign, if there is one. -/
def sign? : List Char → List Char × List Char
  | '+' :: cs => (['+'], cs)
  | '-' :: cs => (['-'], cs)
  | cs => ([], cs)

/-- An integer in another base after its mark. -/
def basedInteger (base : Nat) (isDigit : Char → Bool) : Scan Node := fun cs =>
  match digitRun isDigit cs with
  | none => none
  | some (ds, rest) =>
    let n := ds.foldl (fun n c => n * base + (hexValue? c).getD 0) 0
    if n ≤ maxI64 then some (.integer n, rest) else none

/-- The digits of a decimal integer: no zero in front of others. -/
def decimalDigits : Scan (List Char) := fun cs =>
  match digitRun Char.isDigit cs with
  | some (ds, rest) => if ds.head? = some '0' ∧ ds.length ≠ 1 then none else some (ds, rest)
  | none => none

/-- The exponent of a float, if there is one. -/
def exponent : Scan (List Char)
  | c :: cs =>
    if c = 'e' ∨ c = 'E' then
      let (sign, cs) := sign? cs
      match digitRun Char.isDigit cs with
      | some (ds, rest) => some ('e' :: sign ++ ds, rest)
      | none => none
    else some ([], c :: cs)
  | [] => some ([], [])

/-- `n · 10 ^ e` rounds to a finite double: it is below the middle between the largest double
and the next power of two. -/
def isBelowOverflow (n : Nat) (e : Int) : Bool :=
  let limit := (Nat.pow 2 54 - 1) * Nat.pow 2 970
  if 0 ≤ e then n * Nat.pow 10 e.toNat < limit else n < limit * Nat.pow 10 e.natAbs

/-- The float of these digits is finite. -/
def isFinite (whole fraction : List Char) (exponent : Int) : Bool :=
  let value (ds : List Char) := ds.foldl (fun n c => n * 10 + (c.toNat - '0'.toNat)) 0
  let n := value (whole ++ fraction)
  let e := exponent - fraction.length
  n == 0 || exponent < -100000 || (exponent ≤ 100000 && isBelowOverflow n e)

/-- A decimal number: an integer of 64 bits, or a finite float with a fraction or exponent. -/
def decimal : Scan Node := fun cs =>
  let (sign, cs) := sign? cs
  match cs with
  | 'i' :: 'n' :: 'f' :: rest => some (.float (String.ofList (sign ++ ['i', 'n', 'f'])), rest)
  | 'n' :: 'a' :: 'n' :: rest => some (.float (String.ofList (sign ++ ['n', 'a', 'n'])), rest)
  | _ =>
    match decimalDigits cs with
    | none => none
    | some (whole, rest) =>
      match rest with
      | '.' :: more =>
        match digitRun Char.isDigit more with
        | none => none
        | some (fraction, rest) => float sign whole fraction rest
      | c :: _ =>
        if c = 'e' ∨ c = 'E' then float sign whole [] rest else integer sign whole rest
      | [] => integer sign whole rest
where
  /-- The integer of these digits. -/
  integer (sign whole rest : List Char) : Option (Node × List Char) :=
    let n := whole.foldl (fun n c => n * 10 + (c.toNat - '0'.toNat)) 0
    if sign = ['-'] then if n ≤ maxI64 + 1 then some (.integer (-(n : Int)), rest) else none
    else if n ≤ maxI64 then some (.integer n, rest)
    else none
  /-- The float of these digits and the exponent that may follow. -/
  float (sign whole fraction rest : List Char) : Option (Node × List Char) :=
    match exponent rest with
    | none => none
    | some (ex, rest) =>
      let bound := Nat.pow 10 18
      let e : Int := match readSigned bound (String.ofList (ex.drop 1)) with
        | .ok e => e
        | .error .tooLarge => bound
        | .error .tooSmall => -bound
        | .error _ => 0
      if isFinite whole fraction e then
        some (.float (String.ofList (sign ++ whole ++
          (if fraction.isEmpty then [] else '.' :: fraction) ++ ex)), rest)
      else none

/-- That many digits as a number from `low` to `high`. -/
def fixedDigits (count low high : Nat) : Scan Nat := fun cs =>
  let ds := cs.take count
  let n := ds.foldl (fun n c => n * 10 + (c.toNat - '0'.toNat)) 0
  if ds.length = count ∧ ds.all Char.isDigit ∧ low ≤ n ∧ n ≤ high then some (n, cs.drop count)
  else none

/-- What is left after a character. -/
def mark (c : Char) : List Char → Option (List Char)
  | d :: cs => if c = d then some cs else none
  | [] => none

/-- What is left after a day such as `1979-05-27`. -/
def date (cs : List Char) : Option (List Char) := do
  let (year, cs) ← fixedDigits 4 0 9999 cs
  let cs ← mark '-' cs
  let (month, cs) ← fixedDigits 2 1 12 cs
  let cs ← mark '-' cs
  let (_, cs) ← fixedDigits 2 1 (daysInMonth year month) cs
  some cs

/-- What is left after a time of day such as `07:32:00.5`. -/
def time (cs : List Char) : Option (List Char) := do
  let (_, cs) ← fixedDigits 2 0 23 cs
  let cs ← mark ':' cs
  let (_, cs) ← fixedDigits 2 0 59 cs
  let cs ← mark ':' cs
  let (_, cs) ← fixedDigits 2 0 60 cs
  match cs with
  | '.' :: rest =>
    let ds := rest.takeWhile Char.isDigit
    if ds.isEmpty then none else some (rest.drop ds.length)
  | _ => some cs

/-- What is left after an offset such as `Z` or `-07:00`, if there is one. -/
def offset (cs : List Char) : Option (List Char) :=
  match cs with
  | 'Z' :: cs => some cs
  | 'z' :: cs => some cs
  | c :: rest =>
    if c = '+' ∨ c = '-' then do
      let (_, cs) ← fixedDigits 2 0 23 rest
      let cs ← mark ':' cs
      let (_, cs) ← fixedDigits 2 0 59 cs
      some cs
    else some cs
  | [] => some []

/-- The text begins like a time of day: two digits and a colon. -/
def beginsTime : List Char → Bool
  | a :: b :: ':' :: _ => a.isDigit && b.isDigit
  | _ => false

/-- The text begins like a day: four digits and a hyphen. -/
def beginsDate : List Char → Bool
  | a :: b :: c :: d :: '-' :: _ => a.isDigit && b.isDigit && c.isDigit && d.isDigit
  | _ => false

/-- A day, a time of day, or both with an offset. -/
def moment (cs : List Char) : Option (List Char) :=
  if beginsTime cs then time cs
  else do
    let rest ← date cs
    match rest with
    | c :: more =>
      if c = 'T' ∨ c = 't' ∨ (c = ' ' ∧ beginsTime more) then time more >>= offset else some rest
    | [] => some []

end Toml
end Casework
