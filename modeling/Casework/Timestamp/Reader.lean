/-
# Reading timestamps

`Timestamp.read?` takes RFC 3339 leniently: fields may have fewer digits and blanks around
them, a blank or a small `t` may stand between date and time, and the offset is `Z`, `UTC` or
hours and minutes after a sign. `Timestamp.readStored?` takes what a table of rows may hold,
where seconds and offset can be missing.
-/

import Casework.Timestamp.Basic
import Casework.Text.Blank

namespace Casework
namespace Timestamp

open Text

/-- A reader takes the front of the text and leaves the rest. -/
abbrev Scan (α : Type) := List Char → Option (α × List Char)

/-- The value of decimal digits. -/
def digitsValue (cs : List Char) : Nat := cs.foldl (fun n c => n * 10 + (c.toNat - '0'.toNat)) 0

/-- One to `most` digits, after blanks. -/
def scanNumber (most : Nat) : Scan Nat := fun cs =>
  let cs := trimStart cs
  let ds := (cs.take most).takeWhile Char.isDigit
  if ds.isEmpty then none else some (digitsValue ds, cs.drop ds.length)

/-- A year: up to four digits, or a sign and any number of them. -/
def scanYear : Scan Int := fun cs =>
  match trimStart cs with
  | '-' :: rest => signed (-1) rest
  | '+' :: rest => signed 1 rest
  | cs => (scanNumber 4 cs).map fun (n, rest) => ((n : Int), rest)
where
  /-- All digits that follow a sign. -/
  signed (sign : Int) (cs : List Char) : Option (Int × List Char) :=
    let ds := cs.takeWhile Char.isDigit
    if ds.isEmpty then none
    else some (sign * digitsValue ds, cs.drop ds.length)

/-- The character, after blanks. -/
def scanMark (mark : Char) : Scan Unit := fun cs =>
  match trimStart cs with
  | c :: rest => if c = mark then some ((), rest) else none
  | [] => none

/-- A day as `2024-1-2`. -/
def scanDate : Scan Date := fun cs => do
  let (year, cs) ← scanYear cs
  let (_, cs) ← scanMark '-' cs
  let (month, cs) ← scanNumber 2 cs
  let (_, cs) ← scanMark '-' cs
  let (day, cs) ← scanNumber 2 cs
  some (⟨year, month, day⟩, cs)

/-- The fraction of a second in nanoseconds, if a point follows; digits after the ninth are
dropped. -/
def scanFraction : Scan Nat
  | '.' :: cs =>
    let ds := cs.takeWhile Char.isDigit
    if ds.isEmpty then none
    else
      let kept := ds.take 9
      some (digitsValue kept * Nat.pow 10 (9 - kept.length), cs.drop ds.length)
  | cs => some (0, cs)

/-- Hours and minutes as `3:4`. -/
def scanClock : Scan (Nat × Nat) := fun cs => do
  let (hour, cs) ← scanNumber 2 cs
  let (_, cs) ← scanMark ':' cs
  let (minute, cs) ← scanNumber 2 cs
  some ((hour, minute), cs)

/-- A time of day as `3:4:5.6`. -/
def scanTime : Scan DayTime := fun cs => do
  let ((hour, minute), cs) ← scanClock cs
  let (_, cs) ← scanMark ':' cs
  let (second, cs) ← scanNumber 2 cs
  let (nanos, cs) ← scanFraction cs
  some (⟨hour, minute, second, nanos⟩, cs)

/-- Two digits. -/
def scanTwo : Scan Nat
  | a :: b :: cs => if a.isDigit && b.isDigit then some (digitsValue [a, b], cs) else none
  | _ => none

/-- The minutes of an offset `+hh:mm`; `gap` skips what may stand between the two. -/
def scanOffset (gap : List Char → Option (List Char)) : Scan Int
  | [] => none
  | sign :: cs => do
    let east ← if sign = '+' then some true
      else if sign = '-' ∨ sign = '\u2212' then some false else none
    let (hours, cs) ← scanTwo cs
    let cs ← gap cs
    let (minutes, cs) ← scanTwo cs
    if 60 ≤ minutes ∨ 24 ≤ hours then none
    else
      let m : Int := hours * 60 + minutes
      some (if east then m else -m, cs)

/-- Colons and blanks, as many as there are. -/
def looseGap (cs : List Char) : Option (List Char) :=
  some (cs.dropWhile fun c => c == ':' || isBlank c)

/-- One colon. -/
def colonGap : List Char → Option (List Char)
  | ':' :: cs => some cs
  | _ => none

/-- `Z`, or an offset with one of the gaps. -/
def scanZone (gap : List Char → Option (List Char)) : Scan Int
  | 'Z' :: cs => some (0, cs)
  | 'z' :: cs => some (0, cs)
  | cs => scanOffset gap cs

/-- The letters `UTC` in any case. -/
def scanUtc : Scan Int
  | u :: t :: c :: cs =>
    if u.toUpper = 'U' ∧ t.toUpper = 'T' ∧ c.toUpper = 'C' then some (0, cs) else none
  | _ => none

/-- The character between date and time. -/
def scanDivider : Scan Unit
  | c :: cs => if c = 'T' ∨ c = 't' ∨ c = ' ' then some ((), cs) else none
  | [] => none

/-- A timestamp in RFC 3339, read leniently. -/
def read? (s : String) : Option Timestamp := do
  let (date, cs) ← scanDate s.toList
  let (_, cs) ← scanDivider cs
  let (time, cs) ← scanTime cs
  let cs := trimStart cs
  let (offset, cs) ← (scanUtc cs).orElse fun _ => scanZone looseGap cs
  if (trimStart cs).isEmpty then ofLocal? date time offset else none

/-- The character. -/
def scanChar (c : Char) : Scan Unit
  | x :: cs => if x = c then some ((), cs) else none
  | [] => none

/-- Four digits. -/
def scanFour : Scan Nat := fun cs => do
  let (a, cs) ← scanTwo cs
  let (b, cs) ← scanTwo cs
  some (a * 100 + b, cs)

/-- A timestamp in RFC 3339, read to the letter. -/
def readStrict? (s : String) : Option Timestamp := do
  let (year, cs) ← scanFour s.toList
  let (_, cs) ← scanChar '-' cs
  let (month, cs) ← scanTwo cs
  let (_, cs) ← scanChar '-' cs
  let (day, cs) ← scanTwo cs
  let (_, cs) ← scanDivider cs
  let (hour, cs) ← scanTwo cs
  let (_, cs) ← scanChar ':' cs
  let (minute, cs) ← scanTwo cs
  let (_, cs) ← scanChar ':' cs
  let (second, cs) ← scanTwo cs
  let (nanos, cs) ← scanFraction cs
  let (offset, cs) ← scanZone colonGap cs
  if cs.isEmpty then ofLocal? ⟨year, month, day⟩ ⟨hour, minute, second, nanos⟩ offset else none

/-- A time of day whose seconds may be missing. -/
def scanShortTime : Scan DayTime := fun cs =>
  match scanTime cs with
  | some r => some r
  | none => (scanClock cs).map fun ((hour, minute), cs) => (⟨hour, minute, 0, 0⟩, cs)

/-- What may follow a stored time of day: nothing, `Z`, or an offset. -/
def storedZone (cs : List Char) : Option Int :=
  match cs with
  | [] => some 0
  | ['Z'] => some 0
  | _ =>
    match scanOffset looseGap (trimStart cs) with
    | some (offset, []) => some offset
    | _ => none

/-- A timestamp as rows hold it: to the letter, or with fields left out. -/
def readStored? (s : String) : Option Timestamp :=
  (readStrict? s).orElse fun _ => do
    let (date, cs) ← scanDate s.toList
    let cs := match cs with
      | 'T' :: rest => rest
      | _ => cs
    let (time, cs) ← scanShortTime cs
    let offset ← storedZone cs
    ofLocal? date time offset

end Timestamp
end Casework
