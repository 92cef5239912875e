/-
# Runs of decimal digits

Numbers are written as digits and read by taking the digits at the front of a text. A run of
digits is taken whole when no digit follows it (`takeWhile_digits`), and its value is the number
that was written (`digitsValue_toDigits`), also with zeros in front of it
(`digitsValue_digitsPadded`).
-/

import Mathlib.Algebra.Group.Nat.Defs
import Mathlib.Data.List.Basic
import Casework.Timestamp.Reader

namespace Casework
namespace Text

open Timestamp (digitsValue)

/-- Every character is a decimal digit. -/
def Digits (ds : List Char) : Prop := ∀ c ∈ ds, c.isDigit = true

/-- No digit stands at the front. -/
def NoDigit (rest : List Char) : Prop := ∀ c ∈ rest.head?, c.isDigit = false

/-- A number is written with decimal digits. -/
theorem digits_toDigits (n : ℕ) : Digits (Nat.toDigits 10 n) :=
  fun _ h => Nat.isDigit_of_mem_toDigits (by decide) (by decide) h

/-- A character that is no digit keeps digits from going on. -/
theorem NoDigit.cons {c : Char} {cs : List Char} (h : c.isDigit = false) : NoDigit (c :: cs) := by
  intro d hd
  cases hd
  exact h

/-- No digits are taken where none go on. -/
theorem NoDigit.takeWhile {rest : List Char} (h : NoDigit rest) :
    rest.takeWhile Char.isDigit = [] := by
  rcases rest with _ | ⟨c, rest⟩
  · rfl
  · rw [List.takeWhile_cons_of_neg]
    simp [h c rfl]

/-- A run of digits is taken as far as it goes. -/
theorem takeWhile_digits {ds rest : List Char} (digits : Digits ds) (stop : NoDigit rest) :
    (ds ++ rest).takeWhile Char.isDigit = ds := by
  rw [List.takeWhile_append_of_pos digits, stop.takeWhile, List.append_nil]

/-- Digits alone are taken whole. -/
theorem takeWhile_all {ds : List Char} (digits : Digits ds) : ds.takeWhile Char.isDigit = ds := by
  have stop : NoDigit [] := by simp [NoDigit]
  simpa using takeWhile_digits digits stop

/-! ## Their value -/

/-- More digits make no smaller number. -/
theorem le_ofDigitChars (ds : List Char) (start : ℕ) : start ≤ Nat.ofDigitChars 10 ds start := by
  induction ds generalizing start with
  | nil => exact Nat.le_refl _
  | cons d ds ih =>
    rw [Nat.ofDigitChars_cons]
    have := ih (10 * start + (d.toNat - '0'.toNat))
    omega

/-- The value of digits is the one that the library gives them. -/
theorem digitsValue_eq (ds : List Char) : digitsValue ds = Nat.ofDigitChars 10 ds 0 := by
  rw [digitsValue, Nat.ofDigitChars]
  simp only [Nat.mul_comm]

/-- A number is the value of its digits. -/
theorem digitsValue_toDigits (n : ℕ) : digitsValue (Nat.toDigits 10 n) = n := by
  rw [digitsValue_eq, Nat.ofDigitChars_toDigits (by decide) (by decide)]

/-- Zeros in front do not count. -/
theorem digitsValue_zeros (k : ℕ) (ds : List Char) :
    digitsValue (List.replicate k '0' ++ ds) = digitsValue ds := by
  induction k with
  | zero => rfl
  | succ k ih => exact ih

/-- Zeros in front do not change the value. -/
theorem digitsValue_digitsPadded (width n : ℕ) :
    digitsValue (digitsPadded width n).toList = n := by
  rw [digitsPadded, String.toList_ofList, digitsValue_zeros, digitsValue_toDigits]

/-- A number with zeros in front is written with decimal digits. -/
theorem digits_digitsPadded (width n : ℕ) : Digits (digitsPadded width n).toList := by
  intro c h
  rw [digitsPadded, String.toList_ofList, List.mem_append] at h
  rcases h with zero | digit
  · rw [List.eq_of_mem_replicate zero]
    rfl
  · exact digits_toDigits n c digit

/-- A number that fits a width is filled up to it. -/
theorem length_digitsPadded {width n : ℕ} (pos : 0 < width) (h : n < 10 ^ width) :
    (digitsPadded width n).toList.length = width := by
  have fits := (Nat.length_toDigits_le_iff (b := 10) (by decide) pos).2 h
  rw [digitsPadded, String.toList_ofList, List.length_append, List.length_replicate]
  omega

/-- At least one digit is written. -/
theorem digitsPadded_ne_nil (width n : ℕ) : (digitsPadded width n).toList ≠ [] := by
  rw [digitsPadded, String.toList_ofList]
  intro h
  exact Nat.toDigits_ne_nil (List.append_eq_nil_iff.1 h).2

end Text
end Casework
