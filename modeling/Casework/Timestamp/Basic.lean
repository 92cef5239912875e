/-
# Points in time

A timestamp is a point in time on the UTC calendar, to the nanosecond, held by its calendar
fields. A leap second is the second `60` of its minute. Years run from -262143 to 262142.

| written | as |
| --- | --- |
| `Timestamp.text` | `2024-01-02T03:04:05.5Z` becomes `2024-01-02T03:04:05.500Z`: 0, 3, 6 or 9 fraction digits |
| `Timestamp.spelled` | `2024-01-02 03:04:05.500 UTC` |
| `Timestamp.minuteText` | `2024-01-02 03:04` |
-/

import Casework.Text.Numeral

namespace Casework

open Text

/-- A leap year of the proleptic Gregorian calendar. -/
def isLeapYear (year : Int) : Bool :=
  year % 4 == 0 && (year % 100 != 0 || year % 400 == 0)

/-- The number of days of a month; the number of a month outside 1 to 12 is 0. -/
def daysInMonth (year : Int) (month : Nat) : Nat :=
  match month with
  | 1 | 3 | 5 | 7 | 8 | 10 | 12 => 31
  | 4 | 6 | 9 | 11 => 30
  | 2 => if isLeapYear year then 29 else 28
  | _ => 0

/-- A day of the calendar. -/
structure Date where
  year : Int
  month : Nat
  day : Nat
deriving DecidableEq, Repr

/-- The day exists and its year is one that timestamps cover. -/
def Date.isValid (d : Date) : Bool :=
  -262143 ≤ d.year && d.year ≤ 262142 && 1 ≤ d.day && d.day ≤ daysInMonth d.year d.month

/-- The day after. -/
def Date.next (d : Date) : Date :=
  if d.day < daysInMonth d.year d.month then { d with day := d.day + 1 }
  else if d.month < 12 then { d with month := d.month + 1, day := 1 }
  else ⟨d.year + 1, 1, 1⟩

/-- The day before. -/
def Date.previous (d : Date) : Date :=
  if 1 < d.day then { d with day := d.day - 1 }
  else if 1 < d.month then ⟨d.year, d.month - 1, daysInMonth d.year (d.month - 1)⟩
  else ⟨d.year - 1, 12, 31⟩

/-- A time of day; second 60 is a leap second. -/
structure DayTime where
  hour : Nat
  minute : Nat
  second : Nat
  nanos : Nat
deriving DecidableEq, Repr

/-- Every field is within its range. -/
def DayTime.isValid (t : DayTime) : Bool :=
  t.hour < 24 && t.minute < 60 && t.second ≤ 60 && t.nanos < 1000000000

/-- A point in time on the UTC calendar. -/
structure Timestamp where
  date : Date
  time : DayTime
  date_valid : date.isValid = true
  time_valid : time.isValid = true
deriving DecidableEq

namespace Timestamp

/-- The timestamp with these fields, if there is one. -/
def ofFields? (date : Date) (time : DayTime) : Option Timestamp :=
  if hd : date.isValid = true then
    if ht : time.isValid = true then some ⟨date, time, hd, ht⟩ else none
  else none

/-- The timestamp that clocks at `offset` minutes east of UTC show with these fields. -/
def ofLocal? (date : Date) (time : DayTime) (offset : Int) : Option Timestamp :=
  if date.isValid && time.isValid then
    let m : Int := time.hour * 60 + time.minute - offset
    let (d, m) :=
      if m < 0 then (date.previous, m + 1440)
      else if 1440 ≤ m then (date.next, m - 1440)
      else (date, m)
    ofFields? d { time with hour := m.toNat / 60, minute := m.toNat % 60 }
  else none

/-- The first moment of 1970. -/
def epoch : Timestamp := ⟨⟨1970, 1, 1⟩, ⟨0, 0, 0, 0⟩, by decide, by decide⟩

/-- The nanoseconds of a day. -/
def dayNanos : Nat := 86400000000000

/-- The time of day after so many nanoseconds of a day. -/
def timeOfNanos (n : Nat) : DayTime :=
  ⟨n / 3600000000000 % 24, n / 60000000000 % 60, n / 1000000000 % 60, n % 1000000000⟩

/-- The point in time that is so many nanoseconds later; a leap second counts as the second after
it. -/
def later (t : Timestamp) (nanos : Nat) : Timestamp :=
  let seconds := (t.time.hour * 60 + t.time.minute) * 60 + t.time.second
  let n := seconds * 1000000000 + t.time.nanos + nanos
  (ofFields? (Nat.repeat Date.next (n / dayNanos) t.date) (timeOfNanos (n % dayNanos))).getD t

/-- The fields from the year down, by which timestamps are ordered. -/
def fields (t : Timestamp) : List Int :=
  [t.date.year, t.date.month, t.date.day, t.time.hour, t.time.minute, t.time.second,
    t.time.nanos]

/-- The order of two lists of fields, the first difference deciding. -/
def fieldsLe : List Int → List Int → Bool
  | a :: as, b :: bs => if a < b then true else if b < a then false else fieldsLe as bs
  | _, _ => true

/-- A timestamp is not after another one. -/
def le (a b : Timestamp) : Bool := fieldsLe a.fields b.fields

/-- A year: four digits, or a sign and at least four outside 0 to 9999. -/
def yearText (y : Int) : String :=
  if 0 ≤ y ∧ y ≤ 9999 then digitsPadded 4 y.toNat
  else (if y < 0 then "-" else "+") ++ digitsPadded 4 y.natAbs

/-- A fraction of a second: nothing, or a point and the fewest of 3, 6 or 9 digits that lose
nothing. -/
def fractionText (nanos : Nat) : String :=
  if nanos = 0 then ""
  else if nanos % 1000000 = 0 then "." ++ digitsPadded 3 (nanos / 1000000)
  else if nanos % 1000 = 0 then "." ++ digitsPadded 6 (nanos / 1000)
  else "." ++ digitsPadded 9 nanos

/-- A day as `2024-01-02`. -/
def dateText (d : Date) : String :=
  yearText d.year ++ "-" ++ digitsPadded 2 d.month ++ "-" ++ digitsPadded 2 d.day

/-- Hours and minutes as `03:04`. -/
def clockText (t : DayTime) : String := digitsPadded 2 t.hour ++ ":" ++ digitsPadded 2 t.minute

/-- A time of day as `03:04:05` with its fraction. -/
def timeText (t : DayTime) : String :=
  clockText t ++ ":" ++ digitsPadded 2 t.second ++ fractionText t.nanos

/-- The exchange form: `2024-01-02T03:04:05Z`. -/
def text (t : Timestamp) : String := dateText t.date ++ "T" ++ timeText t.time ++ "Z"

/-- The form for people: `2024-01-02 03:04:05 UTC`. -/
def spelled (t : Timestamp) : String := dateText t.date ++ " " ++ timeText t.time ++ " UTC"

/-- The form for lists, to the minute: `2024-01-02 03:04`. -/
def minuteText (t : Timestamp) : String := dateText t.date ++ " " ++ clockText t.time

end Timestamp
end Casework
