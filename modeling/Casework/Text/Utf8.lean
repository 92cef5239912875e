/-
# UTF-8

Characters as bytes and back. `decode?` accepts exactly the well-formed sequences: no
surrogate, nothing above `U+10FFFF`, no longer form than needed. `decodeLossy` reads anything
and puts `U+FFFD` for each maximal broken piece.
-/

namespace Casework
namespace Text

/-- A byte from a number below 256. -/
def byteOf (n : Nat) : UInt8 := UInt8.ofNat n

/-- The bytes of one character. -/
def encodeChar (c : Char) : List UInt8 :=
  let n := c.toNat
  if n < 0x80 then [byteOf n]
  else if n < 0x800 then [byteOf (0xC0 + n / 0x40), byteOf (0x80 + n % 0x40)]
  else if n < 0x10000 then
    [byteOf (0xE0 + n / 0x1000), byteOf (0x80 + n / 0x40 % 0x40), byteOf (0x80 + n % 0x40)]
  else
    [byteOf (0xF0 + n / 0x40000), byteOf (0x80 + n / 0x1000 % 0x40),
      byteOf (0x80 + n / 0x40 % 0x40), byteOf (0x80 + n % 0x40)]

/-- The bytes of a list of characters. -/
def encodeChars (cs : List Char) : List UInt8 := cs.flatMap encodeChar

/-- The bytes of a text. -/
def utf8Bytes (s : String) : List UInt8 := encodeChars s.toList

/-- What the front of a byte list holds: a character, or a broken piece of some length. -/
inductive Piece where
  | char (c : Char) (size : Nat)
  | broken (size : Nat)

/-- The range of the second byte of a sequence, given its first byte: the usual `80` to `BF`,
less where that would be a surrogate, a too long form or a value above `U+10FFFF`. -/
def secondRange (first : Nat) : Nat × Nat :=
  if first = 0xE0 then (0xA0, 0xBF)
  else if first = 0xED then (0x80, 0x9F)
  else if first = 0xF0 then (0x90, 0xBF)
  else if first = 0xF4 then (0x80, 0x8F)
  else (0x80, 0xBF)

/-- How many bytes follow a first byte, `none` if no sequence begins with it. -/
def followers (first : Nat) : Option Nat :=
  if first < 0x80 then some 0
  else if 0xC2 ≤ first ∧ first ≤ 0xDF then some 1
  else if 0xE0 ≤ first ∧ first ≤ 0xEF then some 2
  else if 0xF0 ≤ first ∧ first ≤ 0xF4 then some 3
  else none

/-- The leading bits that a first byte gives to the code point. -/
def leadBits (first : Nat) : Nat → Nat
  | 0 => first
  | 1 => first - 0xC0
  | 2 => first - 0xE0
  | _ => first - 0xF0

/-- Reads `count` bytes, the next one within the range and those after it within `80` to `BF`,
and adds their low six bits to `acc`. -/
def readFollowers (range : Nat × Nat) (acc size : Nat) : Nat → List UInt8 → Piece
  | 0, _ => .char (Char.ofNat acc) size
  | _ + 1, [] => .broken size
  | count + 1, b :: rest =>
    let n := b.toNat
    if range.1 ≤ n ∧ n ≤ range.2 then
      readFollowers (0x80, 0xBF) (acc * 0x40 + (n - 0x80)) (size + 1) count rest
    else .broken size

/-- The piece that a first byte and the bytes after it begin with. -/
def readPiece (first : UInt8) (rest : List UInt8) : Piece :=
  match followers first.toNat with
  | none => .broken 1
  | some count =>
    readFollowers (secondRange first.toNat) (leadBits first.toNat count) 1 count rest

/-- Reads the bytes piece by piece; `broken` says what stands for a broken piece, `none` gives
up there. -/
def decodeWith (broken : Option Char) : List UInt8 → Option (List Char)
  | [] => some []
  | b :: rest =>
    match readPiece b rest with
    | .char c size => (decodeWith broken (rest.drop (size - 1))).map (c :: ·)
    | .broken size =>
      match broken with
      | none => none
      | some c => (decodeWith broken (rest.drop (size - 1))).map (c :: ·)
termination_by bs => bs.length
decreasing_by all_goals simp +arith

/-- The text of a well-formed byte sequence. -/
def decode? (bytes : List UInt8) : Option String :=
  (decodeWith none bytes).map String.ofList

/-- The text of any byte sequence, with `U+FFFD` for each broken piece. -/
def decodeLossy (bytes : List UInt8) : String :=
  String.ofList ((decodeWith (some '\uFFFD') bytes).getD [])

end Text
end Casework
