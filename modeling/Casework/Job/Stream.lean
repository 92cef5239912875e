/-
# Job streams as bytes

A server sends descriptors to a worker one per line: compact JSON and a line feed. The bytes
arrive in chunks that are cut anywhere. `JobStream.next` puts lines together again:

| line | what is read |
| --- | --- |
| blank | nothing, the next line is looked at |
| a descriptor | the descriptor |
| anything else | an error, and the next line is the next one |

A carriage return in front of the line feed belongs to neither line, and the bytes after the
last line feed are a line of their own if there are any.
-/

import Casework.Job.Message
import Casework.Text.Utf8

namespace Casework

open Text

/-- The bytes of a descriptor on a stream. -/
def JobDescriptor.frame (d : JobDescriptor) : List UInt8 := utf8Bytes (Wire.render d) ++ [0x0A]

/-- The bytes of a job stream that have not been read yet. -/
structure JobStream where
  /-- What has arrived. -/
  held : List UInt8 := []
  /-- What will arrive, piece by piece. -/
  chunks : List (List UInt8) := []
  /-- After the last chunk the connection breaks, instead of being closed. -/
  broken : Bool := false
deriving DecidableEq, Repr

namespace JobStream

/-- How much of the stream is left: its bytes, and one for each chunk to come. -/
def size (s : JobStream) : Nat := s.held.length + s.chunks.flatten.length + s.chunks.length

/-- The line at the front of the bytes, and what follows its line feed; `none` if there is no
line feed. -/
def splitLine : List UInt8 → Option (List UInt8 × List UInt8)
  | [] => none
  | b :: bs => if b = 0x0A then some ([], bs) else (splitLine bs).map fun (l, r) => (b :: l, r)

/-- What a cut takes away is the line and its line feed. -/
theorem splitLine_length {bs l r : List UInt8} (h : splitLine bs = some (l, r)) :
    l.length + r.length + 1 = bs.length := by
  induction bs generalizing l with
  | nil => simp [splitLine] at h
  | cons b bs ih =>
    unfold splitLine at h
    split at h
    · obtain ⟨rfl, rfl⟩ := Prod.mk.inj (Option.some.inj h)
      simp
    · obtain ⟨⟨l', r'⟩, h', e⟩ := Option.map_eq_some_iff.1 h
      obtain ⟨rfl, rfl⟩ := Prod.mk.inj e
      have := ih h'
      simp only [List.length_cons]
      omega

/-- What taking a line from a stream gives. -/
inductive Taken where
  /-- A line, with or without a line feed at its end. -/
  | line (bytes : List UInt8)
  /-- There is no line left. -/
  | finished
  /-- The connection broke. -/
  | failed
deriving DecidableEq, Repr

/-- Takes a line off the bytes held; as long as they have no line feed, the next chunk is waited
for. -/
def takeLine (held : List UInt8) : List (List UInt8) → Bool → Taken × JobStream
  | chunks, broken =>
    match splitLine held with
    | some (line, rest) => (.line line, ⟨rest, chunks, broken⟩)
    | none =>
      match chunks with
      | chunk :: chunks => takeLine (held ++ chunk) chunks broken
      | [] =>
        if broken then (.failed, {})
        else if held.isEmpty then (.finished, {})
        else (.line held, {})

/-- Taking a line leaves less of the stream, so reading comes to an end. -/
theorem takeLine_size {held : List UInt8} {chunks : List (List UInt8)} {broken : Bool}
    {line : List UInt8} {t : JobStream} (h : takeLine held chunks broken = (.line line, t)) :
    t.size < (⟨held, chunks, broken⟩ : JobStream).size := by
  induction chunks generalizing held with
  | nil =>
    unfold takeLine at h
    split at h
    · rename_i l r hs
      obtain ⟨-, rfl⟩ := Prod.mk.inj h
      have := splitLine_length hs
      simp only [size, List.flatten_nil, List.length_nil]
      omega
    · simp only at h
      split at h
      · simp at h
      · split at h
        · simp at h
        · rename_i hne
          obtain ⟨-, rfl⟩ := Prod.mk.inj h
          cases held with
          | nil => simp at hne
          | cons b bs => simp [size]
  | cons chunk chunks ih =>
    unfold takeLine at h
    split at h
    · rename_i l r hs
      obtain ⟨-, rfl⟩ := Prod.mk.inj h
      have := splitLine_length hs
      simp only [size]
      omega
    · have := ih h
      simp only [size, List.flatten_cons, List.length_append, List.length_cons] at this ⊢
      omega

/-- A line without the carriage return at its end. -/
def chomp (line : List UInt8) : List UInt8 :=
  if line.getLast? = some 0x0D then line.dropLast else line

/-- The fault of a stream that cannot be read on. -/
def readFailure (cause : String) : Error := .transport ("job stream read failed: " ++ cause)

/-- The wording of a fault in a line. -/
def faultText : Json.Fault → String
  | .malformed => "not JSON"
  | .mismatch _ cause => cause

/-- The descriptor of a line, `none` for a blank one. Reading is given the present time, which is
what a missing timestamp means. -/
def readLine (now : Timestamp) (line : List UInt8) : Except Error (Option JobDescriptor) :=
  match decode? line with
  | none => .error (readFailure "stream did not contain valid UTF-8")
  | some s =>
    if (trimChars s.toList).isEmpty then .ok none
    else
      match Wire.parse now s with
      | .ok d => .ok (some d)
      | .error fault => .error (.transport ("undecodable job descriptor: " ++ faultText fault))

/-- The next descriptor, signs of life included; `none` at the end of the stream. -/
def next (now : Timestamp) (s : JobStream) : Except Error (Option JobDescriptor) × JobStream :=
  match _h : takeLine s.held s.chunks s.broken with
  | (.finished, t) => (.ok none, t)
  | (.failed, t) => (.error (readFailure "connection broken"), t)
  | (.line line, t) =>
    match readLine now (chomp line) with
    | .error e => (.error e, t)
    | .ok (some d) => (.ok (some d), t)
    | .ok none => next now t
termination_by s.size
decreasing_by exact takeLine_size ‹_›

end JobStream
end Casework
