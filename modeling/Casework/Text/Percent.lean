/-
# Percent-encoding

A URL writes a byte as `%` and two hexadecimal digits. Decoding works on bytes and leaves a
`%` alone that no two digits follow. A query string is a form: pairs between `&`, name and
value around the first `=`, and `+` for a blank.
-/

import Casework.Text.Utf8
import Casework.Text.Blank

namespace Casework
namespace Text

/-- The value of a hexadecimal digit of either case. -/
def hexValue? (c : Char) : Option Nat :=
  if '0' ≤ c ∧ c ≤ '9' then some (c.toNat - '0'.toNat)
  else if 'a' ≤ c ∧ c ≤ 'f' then some (c.toNat - 'a'.toNat + 10)
  else if 'A' ≤ c ∧ c ≤ 'F' then some (c.toNat - 'A'.toNat + 10)
  else none

/-- The byte that two hexadecimal digits name. -/
def hexByte? (hi lo : UInt8) : Option UInt8 :=
  match hexValue? (Char.ofNat hi.toNat), hexValue? (Char.ofNat lo.toNat) with
  | some h, some l => some (byteOf (h * 16 + l))
  | _, _ => none

/-- The bytes with every `%xx` replaced by the byte it names. -/
def percentDecode : List UInt8 → List UInt8
  | b :: hi :: lo :: rest =>
    if b = 0x25 then
      match hexByte? hi lo with
      | some v => v :: percentDecode rest
      | none => b :: percentDecode (hi :: lo :: rest)
    else b :: percentDecode (hi :: lo :: rest)
  | bs => bs

/-- An upper-case hexadecimal digit. -/
def upperHexDigit (n : Nat) : Char := Char.ofNat (if n < 10 then 0x30 + n else 0x37 + n)

/-- A byte as `%xx`. -/
def percentEncodeByte (b : UInt8) : List Char :=
  ['%', upperHexDigit (b.toNat / 16), upperHexDigit (b.toNat % 16)]

/-- The characters of a text, those that `keep` does not allow written byte by byte. -/
def percentEncode (keep : Char → Bool) (s : String) : String :=
  String.ofList (s.toList.flatMap fun c =>
    if keep c then [c] else (encodeChar c).flatMap percentEncodeByte)

/-- The characters that a form leaves as they are. -/
def isFormPlain (c : Char) : Bool :=
  c.isAlphanum || c == '*' || c == '-' || c == '.' || c == '_'

/-- A component of a form: a blank becomes `+`, other special characters are percent-encoded. -/
def formEncode (s : String) : String :=
  String.ofList (s.toList.flatMap fun c =>
    if c = ' ' then ['+']
    else if isFormPlain c then [c]
    else (encodeChar c).flatMap percentEncodeByte)

/-- A form of named values. -/
def formEncodePairs (pairs : List (String × String)) : String :=
  joinWith "&" (pairs.map fun p => formEncode p.1 ++ "=" ++ formEncode p.2)

/-- The text of a component of a form. -/
def formDecode (cs : List Char) : String :=
  decodeLossy (percentDecode ((encodeChars cs).map fun b => if b = 0x2B then 0x20 else b))

/-- The named values of a form, in order; empty pieces between `&` are skipped. -/
def formPairs (s : String) : List (String × String) :=
  (splitChars '&' s.toList).filterMap fun piece =>
    if piece.isEmpty then none
    else
      let name := piece.takeWhile (· ≠ '=')
      some (formDecode name, formDecode (piece.drop (name.length + 1)))

end Text
end Casework
