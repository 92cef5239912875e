/-
# Percent-encoding and back

A path writes most ASCII characters as they are, the percent sign among them, and the others byte
by byte as `%xx`.  Decoding resolves every `%xx`, whoever wrote it.  So a text comes back as it was
if it has no `%xx` of its own (`percentDecode_percentEncode`), and shorter if it has
(`length_percentDecode`).
-/

import Mathlib.Data.List.Basic
import Casework.Proofs.Text.Utf8
import Casework.Text.Percent

namespace Casework
namespace Text

/-- The text begins with two hexadecimal digits. -/
def startsWithHexPair : List Char → Bool
  | hi :: lo :: _ => (hexValue? hi).isSome && (hexValue? lo).isSome
  | _ => false

/-- Somewhere in the text two hexadecimal digits follow a percent sign. -/
def hasEscape : List Char → Bool
  | [] => false
  | c :: cs => (c == '%' && startsWithHexPair cs) || hasEscape cs

/-- What is written as it is: ASCII characters, and escapes among them. -/
structure KeepsEscapes (keep : Char → Bool) : Prop where
  ascii (c : Char) : keep c = true → c.toNat < 0x80
  percent : keep '%' = true
  digits (c : Char) (v : ℕ) : hexValue? c = some v → keep c = true

variable {keep : Char → Bool} {c : Char} {cs : List Char} {b : UInt8} {bs : List UInt8}

/-! ## Bytes -/

/-- A byte that is no percent sign stands for itself. -/
theorem percentDecode_cons_of_ne (other : b ≠ 0x25) (bs : List UInt8) :
    percentDecode (b :: bs) = b :: percentDecode bs := by
  match bs with
  | [] => rfl
  | [_] => rfl
  | hi :: lo :: rest => rw [percentDecode, if_neg other]

/-- A percent sign with two hexadecimal digits stands for their byte. -/
theorem percentDecode_escape {hi lo v : UInt8} (pair : hexByte? hi lo = some v)
    (rest : List UInt8) : percentDecode (0x25 :: hi :: lo :: rest) = v :: percentDecode rest := by
  rw [percentDecode, if_pos rfl, pair]

/-- A percent sign that no two digits follow stays. -/
theorem percentDecode_percent (lone : ∀ hi lo rest, bs = hi :: lo :: rest → hexByte? hi lo = none) :
    percentDecode (0x25 :: bs) = 0x25 :: percentDecode bs := by
  match bs with
  | [] => rfl
  | [_] => rfl
  | hi :: lo :: rest => rw [percentDecode, if_pos rfl, lone hi lo rest rfl]

/-- An ASCII character is one byte. -/
theorem encodeChar_of_ascii (ascii : c.toNat < 0x80) : encodeChar c = [byteOf c.toNat] := by
  rw [encodeChar, if_pos ascii]

theorem encodeChar_percent : encodeChar '%' = [0x25] := by decide

/-- The byte tells the character. -/
theorem ofNat_byteOf (ascii : c.toNat < 0x80) : Char.ofNat (byteOf c.toNat).toNat = c := by
  rw [toNat_byteOf (by omega), Char.ofNat_toNat]

/-- Characters are encoded one after the other. -/
theorem encodeChars_cons (c : Char) (cs : List Char) :
    encodeChars (c :: cs) = encodeChar c ++ encodeChars cs := List.flatMap_cons

theorem encodeChars_append (cs ds : List Char) :
    encodeChars (cs ++ ds) = encodeChars cs ++ encodeChars ds := List.flatMap_append

/-- A character has at least one byte. -/
theorem length_encodeChar_pos (c : Char) : 0 < (encodeChar c).length := by
  obtain ⟨b, bs, bytes, -⟩ := followers_encodeChar c
  rw [bytes]
  exact Nat.succ_pos _

/-- The digits of a byte name the byte. -/
theorem hexByte?_upperHexDigit (b : UInt8) :
    hexByte? (byteOf (upperHexDigit (b.toNat / 16)).toNat)
      (byteOf (upperHexDigit (b.toNat % 16)).toNat) = some b := by
  have digit : ∀ n < 16, (upperHexDigit n).toNat < 0x80 ∧ hexValue? (upperHexDigit n) = some n := by
    decide
  have small := b.toNat_lt
  obtain ⟨high_ascii, high⟩ := digit (b.toNat / 16) (by omega)
  obtain ⟨low_ascii, low⟩ := digit (b.toNat % 16) (by omega)
  rw [hexByte?, ofNat_byteOf high_ascii, ofNat_byteOf low_ascii, high, low]
  dsimp only
  rw [Nat.div_add_mod', byteOf_toNat]

/-- Bytes that are written as escapes are read back. -/
theorem percentDecode_percentEncodeByte (bytes rest : List UInt8) :
    percentDecode (encodeChars (bytes.flatMap percentEncodeByte) ++ rest) =
      bytes ++ percentDecode rest := by
  induction bytes with
  | nil => rfl
  | cons b bytes ih =>
    have digit : ∀ n < 16, (upperHexDigit n).toNat < 0x80 := by decide
    have small := b.toNat_lt
    have escape : encodeChars (percentEncodeByte b) =
        [0x25, byteOf (upperHexDigit (b.toNat / 16)).toNat,
          byteOf (upperHexDigit (b.toNat % 16)).toNat] := by
      rw [percentEncodeByte, encodeChars_cons, encodeChars_cons, encodeChars_cons,
        encodeChar_of_ascii (digit _ (by omega)), encodeChar_of_ascii (digit _ (by omega))]
      rfl
    rw [List.flatMap_cons, encodeChars_append, escape, List.append_assoc]
    exact (percentDecode_escape (hexByte?_upperHexDigit b) _).trans (congrArg (b :: ·) ih)

/-! ## Texts -/

/-- The bytes of a text that was percent-encoded. -/
def encodedBytes (keep : Char → Bool) (cs : List Char) : List UInt8 :=
  utf8Bytes (percentEncode keep (String.ofList cs))

/-- A character is kept, or all its bytes are escaped. -/
theorem encodedBytes_cons (keep : Char → Bool) (c : Char) (cs : List Char) :
    encodedBytes keep (c :: cs) =
      encodeChars (if keep c then [c] else (encodeChar c).flatMap percentEncodeByte) ++
        encodedBytes keep cs := by
  simp only [encodedBytes, utf8Bytes, percentEncode, String.toList_ofList, List.flatMap_cons,
    encodeChars_append]

/-- A character that is kept is one byte. -/
theorem encodedBytes_cons_of_keep (plain : KeepsEscapes keep) (kept : keep c = true)
    (cs : List Char) : encodedBytes keep (c :: cs) = byteOf c.toNat :: encodedBytes keep cs := by
  rw [encodedBytes_cons, if_pos kept, encodeChars_cons, encodeChar_of_ascii (plain.ascii c kept)]
  rfl

/-- Any character but the percent sign is read back, whatever follows it. -/
theorem percentDecode_encodedBytes_cons (plain : KeepsEscapes keep) (other : c ≠ '%')
    (cs : List Char) : percentDecode (encodedBytes keep (c :: cs)) =
      encodeChar c ++ percentDecode (encodedBytes keep cs) := by
  by_cases kept : keep c = true
  · have ascii := plain.ascii c kept
    have other_byte : byteOf c.toNat ≠ 0x25 := by
      intro same
      refine other ?_
      rw [← ofNat_byteOf ascii, same]
      rfl
    rw [encodedBytes_cons_of_keep plain kept, percentDecode_cons_of_ne other_byte,
      encodeChar_of_ascii ascii, List.singleton_append]
  · rw [encodedBytes_cons, if_neg kept, percentDecode_percentEncodeByte]

/-- What is no digit does not begin with the byte of one. -/
theorem encodedBytes_of_not_digit (plain : KeepsEscapes keep) (no_digit : hexValue? c = none)
    (cs : List Char) : ∃ b bs, encodedBytes keep (c :: cs) = b :: bs ∧
      hexValue? (Char.ofNat b.toNat) = none := by
  by_cases kept : keep c = true
  · refine ⟨_, _, encodedBytes_cons_of_keep plain kept cs, ?_⟩
    rw [ofNat_byteOf (plain.ascii c kept), no_digit]
  · obtain ⟨b, bs, bytes, -⟩ := followers_encodeChar c
    rw [encodedBytes_cons, if_neg kept, bytes, List.flatMap_cons, percentEncodeByte,
      List.cons_append, encodeChars_cons]
    exact ⟨0x25, _, rfl, by decide⟩

/-- A percent sign that is no escape is read back. -/
theorem percentDecode_encodedBytes_percent (plain : KeepsEscapes keep)
    (lone : startsWithHexPair cs = false) : percentDecode (encodedBytes keep ('%' :: cs)) =
      0x25 :: percentDecode (encodedBytes keep cs) := by
  rw [encodedBytes_cons_of_keep plain plain.percent]
  refine percentDecode_percent fun hi lo rest bytes => ?_
  cases cs with
  | nil => cases bytes
  | cons c cs =>
    cases first : hexValue? c with
    | none =>
      obtain ⟨b, bs, begins, no_digit⟩ := encodedBytes_of_not_digit plain first cs
      obtain rfl := (List.cons.inj (begins.symm.trans bytes)).1
      rw [hexByte?, no_digit]
    | some v =>
      have kept := plain.digits c v first
      rw [encodedBytes_cons_of_keep plain kept] at bytes
      cases cs with
      | nil => cases (List.cons.inj bytes).2
      | cons d cs =>
        have second : hexValue? d = none := by simpa [startsWithHexPair, first] using lone
        obtain ⟨b, bs, begins, no_digit⟩ := encodedBytes_of_not_digit plain second cs
        obtain rfl := (List.cons.inj (begins.symm.trans (List.cons.inj bytes).2)).1
        rw [hexByte?, no_digit]
        split <;> simp_all

/-- An escape is read as one byte. -/
theorem percentDecode_encodedBytes_escape (plain : KeepsEscapes keep) {hi lo : Char} {h l : ℕ}
    (first : hexValue? hi = some h) (second : hexValue? lo = some l) (cs : List Char) :
    percentDecode (encodedBytes keep ('%' :: hi :: lo :: cs)) =
      byteOf (h * 16 + l) :: percentDecode (encodedBytes keep cs) := by
  have high := plain.digits hi h first
  have low := plain.digits lo l second
  rw [encodedBytes_cons_of_keep plain plain.percent, encodedBytes_cons_of_keep plain high,
    encodedBytes_cons_of_keep plain low]
  refine percentDecode_escape ?_ _
  rw [hexByte?, ofNat_byteOf (plain.ascii hi high), ofNat_byteOf (plain.ascii lo low), first,
    second]

/-- **A text without escapes** is read back as it was. -/
theorem percentDecode_percentEncode (plain : KeepsEscapes keep) (free : hasEscape cs = false) :
    percentDecode (encodedBytes keep cs) = encodeChars cs := by
  induction cs with
  | nil => rfl
  | cons c cs ih =>
    simp only [hasEscape, Bool.or_eq_false_iff] at free
    rw [encodeChars_cons, ← ih free.2]
    by_cases percent : c = '%'
    · subst percent
      have lone : startsWithHexPair cs = false := by simpa using free.1
      rw [percentDecode_encodedBytes_percent plain lone, encodeChar_percent,
        List.singleton_append]
    · exact percentDecode_encodedBytes_cons plain percent cs

/-- A pair of hexadecimal digits is two of them. -/
theorem exists_of_startsWithHexPair (pair : startsWithHexPair cs = true) :
    ∃ hi lo rest, cs = hi :: lo :: rest ∧ ∃ h l, hexValue? hi = some h ∧ hexValue? lo = some l := by
  match cs with
  | hi :: lo :: rest =>
    simp only [startsWithHexPair, Bool.and_eq_true, Option.isSome_iff_exists] at pair
    obtain ⟨⟨h, first⟩, l, second⟩ := pair
    exact ⟨hi, lo, rest, rfl, h, l, first, second⟩

/-- **A text gets shorter** with its escapes read, and is no longer without. -/
theorem length_percentDecode (plain : KeepsEscapes keep) (cs : List Char) :
    (percentDecode (encodedBytes keep cs)).length + (if hasEscape cs then 1 else 0) ≤
      (encodeChars cs).length := by
  induction hn : cs.length using Nat.strongRecOn generalizing cs with
  | ind n ih =>
    cases cs with
    | nil => exact Nat.zero_le _
    | cons c cs =>
      have shorter := ih cs.length (hn ▸ Nat.lt_succ_self _) cs rfl
      rw [encodeChars_cons, List.length_append]
      by_cases percent : c = '%'
      · subst percent
        rw [encodeChar_percent]
        cases pair : startsWithHexPair cs with
        | false =>
          have same : hasEscape ('%' :: cs) = hasEscape cs := by simp [hasEscape, pair]
          rw [percentDecode_encodedBytes_percent plain pair, same]
          simp only [List.length_cons, List.length_nil]
          omega
        | true =>
          obtain ⟨hi, lo, rest, rfl, h, l, first, second⟩ := exists_of_startsWithHexPair pair
          have behind := ih rest.length (by simp [← hn]; omega) rest rfl
          have high := length_encodeChar_pos hi
          have low := length_encodeChar_pos lo
          rw [percentDecode_encodedBytes_escape plain first second, encodeChars_cons,
            encodeChars_cons]
          simp only [List.length_cons, List.length_nil, List.length_append]
          split <;> omega
      · have same : hasEscape (c :: cs) = hasEscape cs := by simp [hasEscape, percent]
        rw [percentDecode_encodedBytes_cons plain percent, List.length_append, same]
        omega

/-- What a percent-encoded text is made of. -/
theorem mem_percentEncode {s : String} (h : c ∈ (percentEncode keep s).toList) :
    keep c = true ∧ c ∈ s.toList ∨ c = '%' ∨ ∃ n < 16, c = upperHexDigit n := by
  rw [percentEncode, String.toList_ofList, List.mem_flatMap] at h
  obtain ⟨d, member, h⟩ := h
  split at h
  · next kept =>
    obtain rfl := List.mem_singleton.1 h
    exact .inl ⟨kept, member⟩
  · obtain ⟨b, -, h⟩ := List.mem_flatMap.1 h
    have small := b.toNat_lt
    simp only [percentEncodeByte, List.mem_cons, List.not_mem_nil, or_false] at h
    rcases h with rfl | rfl | rfl
    · exact .inr (.inl rfl)
    · exact .inr (.inr ⟨_, by omega, rfl⟩)
    · exact .inr (.inr ⟨_, by omega, rfl⟩)

end Text
end Casework
