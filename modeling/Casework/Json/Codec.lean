/-
# Records as JSON

A record is written as an object with its fields in their order, and read from an object in
any order or from an array in the field order. A codec is the pair of the two directions for
one kind of value; records are put together from the codecs of their fields.

| missing field | in an object | in an array |
| --- | --- | --- |
| `required` | refused | refused |
| `nullable` | absent | refused |
| `defaulted` | the blank value of its codec | the blank value of its codec |

Fields that the record does not have are skipped, a field given twice is refused.
-/

import Casework.Json.Reader
import Casework.Timestamp.Reader

namespace Casework
namespace Json

open Text

/-- The value of a field or record, between its JSON text and its own type. -/
inductive Datum where
  | absent
  | text (s : String)
  | integer (n : Int)
  | flag (b : Bool)
  | instant (t : Timestamp)
  | record (fields : List Datum)

/-- How a kind of value is written and read. Reading is given the present time, which is what a
missing timestamp means. -/
structure Codec where
  /-- The value as JSON. -/
  write : Datum → Json
  /-- The value at the front of a text. -/
  read : Timestamp → Reader Datum
  /-- What stands for a missing value. -/
  blank : Timestamp → Datum

/-- A text at the front, `wanted` naming what it is for in messages. -/
def readText (wanted : String) : Reader String := fun cs =>
  match skipSpace cs with
  | '"' :: rest => textBody rest
  | rest => .error (unexpected wanted rest)

/-- The JSON of a datum that is written as it is. -/
def Datum.plain : Datum → Json
  | .text s => .text s
  | .integer n => .number n
  | .flag b => .bool b
  | .instant t => .text t.text
  | _ => .null

/-- Texts. -/
def Codec.text : Codec where
  write := Datum.plain
  read _ cs := (readText "a string" cs).map fun (s, rest) => (.text s, rest)
  blank _ := .text ""

/-- Integers from `low` to `high`, `wanted` naming the range in messages. -/
def readInteger (wanted : String) (low high : Int) : Reader Int := fun cs =>
  let cs := skipSpace cs
  match cs with
  | c :: _ =>
    if c = '-' ∨ c.isDigit then
      match readNumber cs with
      | .ok (.integer n, rest) =>
        if low ≤ n ∧ n ≤ high then .ok (n, rest)
        else .error (.here ("invalid value: integer `" ++ toString n ++ "`, expected " ++ wanted))
      | .ok (n, _) => .error (.invalidType n.found wanted)
      | .error e => .error e
    else .error (unexpected wanted cs)
  | [] => .error .malformed

/-- Integers within a range. -/
def Codec.integer (wanted : String) (low high : Int) : Codec where
  write := Datum.plain
  read _ cs := (readInteger wanted low high cs).map fun (n, rest) => (.integer n, rest)
  blank _ := .integer 0

/-- Signed 64-bit integers. -/
def Codec.int64 : Codec := .integer "i64" (-(maxI64 : Int) - 1) maxI64

/-- Unsigned 64-bit integers. -/
def Codec.uint64 : Codec := .integer "usize" 0 maxU64

/-- `true` and `false`. -/
def Codec.flag : Codec where
  write := Datum.plain
  read _ cs :=
    match skipSpace cs with
    | 't' :: rest => (expect ['r', 'u', 'e'] rest).map fun rest => (.flag true, rest)
    | 'f' :: rest => (expect ['a', 'l', 's', 'e'] rest).map fun rest => (.flag false, rest)
    | rest => .error (unexpected "a boolean" rest)
  blank _ := .flag false

/-- Timestamps, written in the exchange form and read leniently. -/
def Codec.instant : Codec where
  write := Datum.plain
  read _ cs :=
    match readText "an RFC 3339 formatted date and time string" cs with
    | .error e => .error e
    | .ok (s, rest) =>
      match Timestamp.read? s with
      | some t => .ok (.instant t, rest)
      | none => .error (.here "input contains invalid characters")
  blank now := .instant now

/-- The names of a choice as a message lists them. -/
def namesText (names : List String) : String :=
  match names with
  | [] => "there are no variants"
  | [a] => "expected `" ++ a ++ "`"
  | [a, b] => "expected `" ++ a ++ "` or `" ++ b ++ "`"
  | _ => "expected one of " ++ joinWith ", " (names.map fun n => "`" ++ n ++ "`")

/-- One of the names, as a text. -/
def readName (names : List String) : Reader String := fun cs =>
  match readText "variant identifier" cs with
  | .error e => .error e
  | .ok (s, rest) =>
    if names.contains s then .ok (s, rest)
    else .error (.here ("unknown variant `" ++ s ++ "`, " ++ namesText names))

/-- What is left after `null`. -/
def readUnit (cs : List Char) : Except Fault (List Char) :=
  match skipSpace cs with
  | 'n' :: rest => expect ['u', 'l', 'l'] rest
  | rest => .error (unexpected "unit" rest)

/-- A choice between names: the name as a text, or an object with the name as its only key and
`null` as its value. -/
def Codec.choice (names : List String) : Codec where
  write := Datum.plain
  read _ cs :=
    match skipSpace cs with
    | '"' :: rest => (readName names ('"' :: rest)).map fun (s, rest) => (.text s, rest)
    | '\x7b' :: rest =>
      match readName names rest with
      | .error e => .error e
      | .ok (s, rest) =>
        match skipSpace rest with
        | ':' :: rest =>
          match readUnit rest with
          | .error e => .error (e.under (.member s))
          | .ok rest =>
            match skipSpace rest with
            | '\x7d' :: rest => .ok (.text s, rest)
            | _ => .error .malformed
        | _ => .error .malformed
    | _ => .error .malformed
  blank _ := .absent

/-- A value or `null`. -/
def Codec.optional (c : Codec) : Codec where
  write
    | .absent => .null
    | d => c.write d
  read now cs :=
    match skipSpace cs with
    | 'n' :: rest => (expect ['u', 'l', 'l'] rest).map fun rest => (.absent, rest)
    | rest => c.read now rest
  blank _ := .absent

/-! ## Records -/

/-- What a missing field means. -/
inductive Missing where
  | required
  | nullable
  | defaulted
deriving DecidableEq, Repr

/-- A field of a record. -/
structure Field where
  name : String
  codec : Codec
  missing : Missing := .required
  /-- An absent value is left out when the record is written. -/
  leftOut : Bool := false

/-- The members of the object that the fields with these values make. -/
def writeFields : List Field → List Datum → List (String × Json)
  | f :: fs, .absent :: ds =>
    if f.leftOut then writeFields fs ds else (f.name, f.codec.write .absent) :: writeFields fs ds
  | f :: fs, d :: ds => (f.name, f.codec.write d) :: writeFields fs ds
  | _, _ => []

/-- What has been read so far: a slot for each field. -/
abbrev Slots := List (Option Datum)

/-- The field of a name with its place among the fields. -/
def findField (name : String) : List Field → Nat → Option (Nat × Field)
  | [], _ => none
  | f :: fs, i => if f.name = name then some (i, f) else findField name fs (i + 1)

/-- The members of an object up to its closing brace; `first` as long as none was read. -/
def readMembers (fields : List Field) (now : Timestamp) :
    Nat → Bool → Slots → List Char → Except Fault (Slots × List Char)
  | 0, _, _, _ => .error .malformed
  | fuel + 1, first, slots, cs =>
    match skipSpace cs with
    | '\x7d' :: rest => .ok (slots, rest)
    | '"' :: rest => if first then member fuel slots rest else .error .malformed
    | ',' :: rest =>
      if first then .error .malformed
      else
        match skipSpace rest with
        | '"' :: rest => member fuel slots rest
        | _ => .error .malformed
    | _ => .error .malformed
where
  /-- One member whose opening quote has been taken, and those after it. -/
  member (fuel : Nat) (slots : Slots) (cs : List Char) : Except Fault (Slots × List Char) :=
    match textBody cs with
    | .error e => .error e
    | .ok (key, rest) =>
      match findField key fields 0 with
      | none =>
        match skipSpace rest with
        | ':' :: rest =>
          match skipAny rest with
          | .error e => .error e
          | .ok rest => readMembers fields now fuel false slots rest
        | _ => .error .malformed
      | some (i, f) =>
        if (slots[i]?.join).isSome then .error (.here ("duplicate field `" ++ key ++ "`"))
        else
          match skipSpace rest with
          | ':' :: rest =>
            match f.codec.read now rest with
            | .error e => .error (e.under (.member key))
            | .ok (d, rest) => readMembers fields now fuel false (slots.set i (some d)) rest
          | _ => .error .malformed

/-- The values of the fields after an object was read. -/
def fillSlots (now : Timestamp) : List Field → Slots → Except Fault (List Datum)
  | _ :: fs, some d :: slots => (fillSlots now fs slots).map (d :: ·)
  | f :: fs, _ :: slots =>
    match f.missing with
    | .required => .error (.here ("missing field `" ++ f.name ++ "`"))
    | .nullable => (fillSlots now fs slots).map (.absent :: ·)
    | .defaulted => (fillSlots now fs slots).map (f.codec.blank now :: ·)
  | _, _ => .ok []

/-- The items of an array as the values of the fields; `size` counts those read so far. At the
closing bracket the fields that remain take their defaults. -/
def readInOrder (wanted : String) (now : Timestamp) :
    List Field → Nat → List Char → Except Fault (List Datum × List Char)
  | [], _, cs => .ok ([], cs)
  | f :: fs, size, cs =>
    match skipSpace cs with
    | ']' :: rest =>
      match f.missing with
      | .defaulted =>
        (readInOrder wanted now fs (size + 1) (']' :: rest)).map fun (ds, rest) =>
          (f.codec.blank now :: ds, rest)
      | _ => .error (.here ("invalid length " ++ toString size ++ ", expected " ++ wanted))
    | ',' :: rest =>
      if size = 0 then item f fs size (',' :: rest)
      else
        match skipSpace rest with
        | ']' :: _ => .error .malformed
        | [] => .error .malformed
        | rest => item f fs size rest
    | [] => .error .malformed
    | rest => if size = 0 then item f fs size rest else .error .malformed
where
  /-- One item and those after it. -/
  item (f : Field) (fs : List Field) (size : Nat) (cs : List Char) :
      Except Fault (List Datum × List Char) :=
    match f.codec.read now cs with
    | .error e => .error (e.under (.item size))
    | .ok (d, rest) =>
      (readInOrder wanted now fs (size + 1) rest).map fun (ds, rest) => (d :: ds, rest)

/-- A record of the given title. -/
def readRecord (title : String) (fields : List Field) (now : Timestamp) : Reader Datum := fun cs =>
  match skipSpace cs with
  | '\x7b' :: rest =>
    match readMembers fields now (rest.length + 1) true (fields.map fun _ => none) rest with
    | .error e => .error e
    | .ok (slots, rest) => (fillSlots now fields slots).map fun ds => (.record ds, rest)
  | '[' :: rest =>
    let wanted := "struct " ++ title ++ " with " ++ toString fields.length ++
      (if fields.length = 1 then " element" else " elements")
    match readInOrder wanted now fields 0 rest with
    | .error e => .error e
    | .ok (ds, rest) =>
      match skipSpace rest with
      | ']' :: rest => .ok (.record ds, rest)
      | _ => .error .malformed
  | rest => .error (unexpected ("struct " ++ title) rest)

/-- Records with the given fields. -/
def Codec.record (title : String) (fields : List Field) : Codec where
  write
    | .record ds => .object (writeFields fields ds)
    | _ => .null
  read := readRecord title fields
  blank _ := .absent

/-- The value that a whole text holds; only blanks may follow it. -/
def Codec.readAll (c : Codec) (now : Timestamp) (s : String) : Except Fault Datum :=
  match c.read now s.toList with
  | .error e => .error e
  | .ok (d, rest) => if (skipSpace rest).isEmpty then .ok d else .error .malformed

end Json

/-- A type whose values travel as JSON. -/
class Wire (α : Type) where
  /-- How its values are written and read. -/
  codec : Json.Codec
  /-- The value as a datum. -/
  toDatum : α → Json.Datum
  /-- The value of a datum that the codec reads. -/
  ofDatum? : Json.Datum → Option α

namespace Wire

/-- The value as JSON. -/
def toJson [Wire α] (a : α) : Json := (codec α).write (toDatum a)

/-- The value as compact JSON text. -/
def render [Wire α] (a : α) : String := (toJson a).render

/-- The value that a text holds. -/
def parse [Wire α] (now : Timestamp) (s : String) : Except Json.Fault α :=
  match (codec α).readAll now s with
  | .error e => .error e
  | .ok d =>
    match ofDatum? d with
    | some a => .ok a
    | none => .error .malformed

end Wire
end Casework
