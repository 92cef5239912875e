/-
# Texts and integers that are cut off

A written text whose closing quote has not come is refused, at whatever character it was cut
(`textBody_cut`), since no character of it is written with a bare quote.

An integer has no mark at its end. It is read back if what follows it could not belong to it
(`Parted`), as after a value of a record (`Ends`), and of an integer that was cut off nothing is
left over (`readInteger_cut`): the reader that looks for a comma or a brace next finds the end of
the text.
-/

import Casework.Json.Codec
import Casework.Proofs.Json.Spelling
import Casework.Proofs.Text.Digits
import Casework.Proofs.Text.Utf8

namespace Casework
namespace Json

open Text

/-! ## Texts that are cut off -/

/-- Four digits have to be there. -/
theorem hexQuad_short {cs : List Char} (h : cs.length < 4) : hexQuad cs = none := by
  rcases cs with _ | ⟨a, _ | ⟨b, _ | ⟨c, _ | ⟨d, cs⟩⟩⟩⟩
  · rfl
  · rfl
  · rfl
  · rfl
  · simp only [List.length_cons] at h
    omega

theorem textChar_nil : textChar [] = .error .malformed := by rw [textChar]

theorem textChar_backslash : textChar ['\\'] = .error .malformed := by rw [textChar]

/-- A written character that is cut off is refused. -/
theorem textChar_cut {c : Char} {p : List Char} (cut : Cut p (escapeChar c)) :
    textChar p = .error .malformed := by
  rcases escapeChar_cases c with ⟨d, text, -⟩ | ⟨-, text⟩ | ⟨-, -, -, text⟩
  · rw [text] at cut
    rcases cut.cons with rfl | ⟨q, rfl, behind⟩
    · exact textChar_nil
    · rcases behind.cons with rfl | ⟨r, rfl, none⟩
      · exact textChar_backslash
      · exact absurd none Cut.not_nil
  · rw [text] at cut
    rcases cut.cons with rfl | ⟨q, rfl, behind⟩
    · exact textChar_nil
    · rcases behind.cons with rfl | ⟨r, rfl, short⟩
      · exact textChar_backslash
      · rw [textChar, unicodeEscape?, hexQuad_short short.length_lt]
  · rw [text] at cut
    rcases cut.cons with rfl | ⟨q, rfl, none⟩
    · exact textChar_nil
    · exact absurd none Cut.not_nil

/-- A text without its end cannot be read. -/
theorem textChars_cut {cs p : List Char} (cut : Cut p (quoted cs)) (fuel : ℕ) :
    textChars fuel p = .error .malformed := by
  induction cs generalizing p fuel with
  | nil =>
    rcases cut.cons with rfl | ⟨q, rfl, none⟩
    · cases fuel <;> simp [textChars, textChar_nil]
    · exact absurd none Cut.not_nil
  | cons c cs ih =>
    rcases fuel with _ | fuel
    · rw [textChars]
    · rw [quoted_cons] at cut
      rcases cut.append with within | ⟨q, rfl, behind⟩
      · rw [textChars, textChar_cut within]
      · rw [textChars, textChar_escapeChar]
        dsimp only
        rw [ih behind]

/-- A written text that is cut off is refused. -/
theorem textBody_cut {s : String} {p : List Char} (cut : Cut p (quoted s.toList)) :
    textBody p = .error .malformed := by
  rw [textBody, textChars_cut cut]

/-! ## Blanks -/

/-- Blanks alone. -/
def Blanks (ws : List Char) : Prop := ∀ c ∈ ws, isSpace c = true

theorem blanks_nil : Blanks [] := List.forall_mem_nil _

/-- Blanks at the front make no difference. -/
theorem skipSpace_blanks {ws : List Char} (blanks : Blanks ws) (cs : List Char) :
    skipSpace (ws ++ cs) = skipSpace cs :=
  List.dropWhile_append_of_pos blanks

/-- A blank is skipped. -/
theorem skipSpace_blank {c : Char} (space : isSpace c = true) (cs : List Char) :
    skipSpace (c :: cs) = skipSpace cs :=
  List.dropWhile_cons_of_pos space

/-- What is no blank is not skipped. -/
theorem skipSpace_cons {c : Char} {cs : List Char} (h : isSpace c = false) :
    skipSpace (c :: cs) = c :: cs := by
  rw [skipSpace, List.dropWhile_cons_of_neg]
  simp [h]

/-- Blanks before a character that is none. -/
theorem skipSpace_front {ws : List Char} (blanks : Blanks ws) {c : Char} (dark : isSpace c = false)
    (cs : List Char) : skipSpace (ws ++ c :: cs) = c :: cs := by
  rw [skipSpace_blanks blanks, skipSpace_cons dark]

/-! ## Integers -/

/-- What follows a value of a record: nothing, a comma or the closing brace. -/
def Ends (rest : List Char) : Prop := ∀ c ∈ rest.head?, c = ',' ∨ c = '\x7d'

/-- Nothing stands at the front that a number could go on with. -/
def Parted (rest : List Char) : Prop :=
  ∀ c ∈ rest.head?, c.isDigit = false ∧ c ≠ '.' ∧ c ≠ 'e' ∧ c ≠ 'E'

/-- What ends a value is parted from it. -/
theorem Ends.parted {rest : List Char} (h : Ends rest) : Parted rest := by
  intro c hc
  rcases h c hc with rfl | rfl <;> decide

/-- What is parted does not go on with a digit. -/
theorem Parted.noDigit {rest : List Char} (h : Parted rest) : NoDigit rest := fun c hc => (h c hc).1

/-- A character that no number has parts what follows from it. -/
theorem Parted.cons {c : Char} (h : c.isDigit = false ∧ c ≠ '.' ∧ c ≠ 'e' ∧ c ≠ 'E')
    (cs : List Char) : Parted (c :: cs) := by
  rintro d ⟨⟩
  exact h

theorem parted_nil : Parted [] := by
  rintro c ⟨⟩

/-- A number does not go on with a blank. -/
theorem parted_blank {c : Char} (space : isSpace c = true) (cs : List Char) :
    Parted (c :: cs) := by
  refine .cons ?_ cs
  simp only [isSpace, Bool.or_eq_true, beq_iff_eq] at space
  rcases space with ((rfl | rfl) | rfl) | rfl <;> decide

/-- Nor with blanks and what it does not go on with either. -/
theorem Parted.blanks {ws rest : List Char} (blanks : Blanks ws) (h : Parted rest) :
    Parted (ws ++ rest) := by
  rcases ws with _ | ⟨c, ws⟩
  · exact h
  · exact parted_blank (blanks c (List.mem_cons_self ..)) _

/-- Digits are taken up whole as long as their number fits. -/
theorem takeDigits_digits (ds : List Char) (start : ℕ)
    (fits : Nat.ofDigitChars 10 ds start ≤ maxU64) :
    takeDigits start ds = (Nat.ofDigitChars 10 ds start, ds.length, 0) := by
  induction ds generalizing start with
  | nil => rfl
  | cons d ds ih =>
    rw [Nat.ofDigitChars_cons] at fits ⊢
    have small := le_ofDigitChars ds (10 * start + (d.toNat - '0'.toNat))
    rw [takeDigits, Nat.mul_comm start 10, if_pos (by omega), ih _ fits]
    rfl

/-- Only zero is written with a zero in front. -/
theorem toDigits_zero {n : ℕ} {more : List Char} (h : Nat.toDigits 10 n = '0' :: more) :
    more = [] := by
  induction n using Nat.strongRecOn generalizing more with
  | ind n ih =>
    rcases Nat.lt_or_ge n 10 with small | large
    · rw [Nat.toDigits_of_lt_base small] at h
      exact (List.cons.inj h).2.symm
    · rw [Nat.toDigits_of_base_le (by decide) large] at h
      obtain ⟨c, cs, front⟩ :=
        List.exists_cons_of_ne_nil (Nat.toDigits_ne_nil (n := n / 10) (b := 10))
      rw [front, List.cons_append] at h
      obtain ⟨rfl, rfl⟩ := List.cons.inj h
      have only := ih (n / 10) (by omega) front
      have value := digitsValue_toDigits (n / 10)
      rw [front, only] at value
      have zero : Timestamp.digitsValue ['0'] = 0 := rfl
      omega

/-- A written number is read as the number, if what follows cannot belong to it. -/
theorem readUnsignedNumber_toDigits (negative : Bool) {n : ℕ} {rest : List Char}
    (fits : n ≤ maxU64) (ends : Parted rest) :
    readUnsignedNumber negative (Nat.toDigits 10 n ++ rest) =
      .ok (integerOrFloat negative n, rest) := by
  have value : Nat.ofDigitChars 10 (Nat.toDigits 10 n) 0 = n :=
    Nat.ofDigitChars_toDigits (by decide) (by decide)
  have taken := takeDigits_digits (Nat.toDigits 10 n) 0 (by rw [value]; exact fits)
  rw [value] at taken
  obtain ⟨d, more, digits⟩ :=
    List.exists_cons_of_ne_nil (Nat.toDigits_ne_nil (n := n) (b := 10))
  have single : ¬ (d = '0' ∧ more ≠ []) := by
    rintro ⟨rfl, ne⟩
    exact ne (toDigits_zero digits)
  rw [readUnsignedNumber, takeWhile_digits (digits_toDigits n) ends.noDigit, List.drop_left]
  dsimp only
  rw [digits] at taken ⊢
  dsimp only
  rw [if_neg single, taken]
  dsimp only
  split
  · exact absurd rfl (ends '.' rfl).2.1
  · exact absurd rfl (ends 'e' rfl).2.2.1
  · exact absurd rfl (ends 'E' rfl).2.2.2
  · rfl

/-- Of a text of digits alone nothing is left over. -/
theorem readUnsignedNumber_digits {negative : Bool} {ds rest : List Char} {n : Num}
    (digits : Digits ds) (h : readUnsignedNumber negative ds = .ok (n, rest)) : rest = [] := by
  rw [readUnsignedNumber, takeWhile_all digits, List.drop_length] at h
  dsimp only at h
  rcases ds with _ | ⟨d, more⟩
  · cases h
  · dsimp only at h
    split at h
    · cases h
    · split at h
      · cases h
        rfl
      · split at h
        · cases h
          rfl
        · cases h

/-- A digit is not a blank. -/
theorem isSpace_digit {c : Char} (h : c.isDigit = true) : isSpace c = false := by
  by_contra space
  simp only [isSpace, Bool.not_eq_false, Bool.or_eq_true, beq_iff_eq] at space
  rcases space with ((rfl | rfl) | rfl) | rfl <;> exact absurd h (by decide)

/-- An integer begins with its sign, or is digits alone. -/
theorem renderInt_cases (n : Int) :
    (∃ m, n = Int.negSucc m ∧ renderInt n = '-' :: Nat.toDigits 10 (m + 1)) ∨
      ∃ m : ℕ, n = m ∧ renderInt n = Nat.toDigits 10 m := by
  rcases n with m | m
  · exact .inr ⟨m, rfl, rfl⟩
  · exact .inl ⟨m, rfl, rfl⟩

/-- A number that begins with a digit has no sign. -/
theorem readNumber_digit {c : Char} {cs : List Char} (h : c.isDigit = true) :
    readNumber (c :: cs) = readUnsignedNumber false (c :: cs) := by
  rw [readNumber]
  rintro cs h'
  rw [(List.cons.inj h').1] at h
  exact absurd h (by decide)

/-- A written integer of 64 bits is read as the number that it is. -/
theorem readNumber_renderInt {n : Int} {rest : List Char} (low : -(maxI64 : Int) - 1 ≤ n)
    (high : n ≤ maxU64) (ends : Parted rest) :
    readNumber (renderInt n ++ rest) = .ok (.integer n, rest) := by
  rcases renderInt_cases n with ⟨m, rfl, text⟩ | ⟨m, rfl, text⟩
  · rw [maxI64] at low
    rw [text, List.cons_append, readNumber,
      readUnsignedNumber_toDigits true (by rw [maxU64]; omega) ends, integerOrFloat, if_pos rfl,
      if_neg (by rw [maxI64]; omega)]
    rfl
  · obtain ⟨c, cs, digits⟩ := List.exists_cons_of_ne_nil (Nat.toDigits_ne_nil (n := m) (b := 10))
    have digit : c.isDigit = true := digits_toDigits m c (digits ▸ List.mem_cons_self ..)
    have read := readUnsignedNumber_toDigits false (n := m) (by omega) ends
    rw [text]
    rw [digits, List.cons_append] at read ⊢
    rw [readNumber_digit digit, read]
    rfl

/-- The first character of an integer. -/
theorem renderInt_head (n : Int) :
    ∃ c cs, renderInt n = c :: cs ∧ (c = '-' ∨ c.isDigit = true) := by
  rcases renderInt_cases n with ⟨m, -, text⟩ | ⟨m, -, text⟩
  · exact ⟨_, _, text, .inl rfl⟩
  · obtain ⟨c, cs, digits⟩ := List.exists_cons_of_ne_nil (Nat.toDigits_ne_nil (n := m) (b := 10))
    exact ⟨c, cs, text.trans digits, .inr (digits_toDigits m c (digits ▸ List.mem_cons_self ..))⟩

/-- A written integer is read as the integer, within the range asked for. -/
theorem readInteger_renderInt {wanted : String} {low high n : Int} {rest : List Char}
    (lowest : -(maxI64 : Int) - 1 ≤ low) (highest : high ≤ maxU64) (above : low ≤ n)
    (below : n ≤ high) (ends : Parted rest) :
    readInteger wanted low high (renderInt n ++ rest) = .ok (n, rest) := by
  obtain ⟨c, cs, text, first⟩ := renderInt_head n
  have number := readNumber_renderInt (Int.le_trans lowest above) (Int.le_trans below highest) ends
  have space : isSpace c = false := by
    rcases first with rfl | digit
    · decide
    · exact isSpace_digit digit
  rw [text, List.cons_append] at number ⊢
  rw [readInteger, skipSpace_cons space]
  dsimp only
  rw [if_pos first, number]
  dsimp only
  rw [if_pos ⟨above, below⟩]

/-- Of an integer that is cut off nothing is left over. -/
theorem readInteger_cut {wanted : String} {low high n m : Int} {p rest : List Char}
    (cut : Cut p (renderInt n)) (h : readInteger wanted low high p = .ok (m, rest)) :
    rest = [] := by
  have number : ∀ x, readNumber p = .ok (x, rest) → rest = [] := by
    intro x read
    rcases renderInt_cases n with ⟨k, -, text⟩ | ⟨k, -, text⟩
    · rw [text] at cut
      rcases cut.cons with rfl | ⟨q, rfl, behind⟩
      · rw [readNumber] at read
        exact readUnsignedNumber_digits (by simp [Digits]) read
        simp
      · rw [readNumber] at read
        exact readUnsignedNumber_digits (fun c hc => digits_toDigits _ c (behind.subset hc)) read
    · rw [text] at cut
      have digits : Digits p := fun c hc => digits_toDigits _ c (cut.subset hc)
      rcases p with _ | ⟨c, p⟩
      · rw [readNumber] at read
        exact readUnsignedNumber_digits digits read
        simp
      · rw [readNumber_digit (digits c (List.mem_cons_self ..))] at read
        exact readUnsignedNumber_digits digits read
  obtain ⟨c, cs, text, first⟩ := renderInt_head n
  rw [text] at cut
  rcases cut.cons with rfl | ⟨q, rfl, -⟩
  · cases h
  · have space : isSpace c = false := by
      rcases first with rfl | digit
      · decide
      · exact isSpace_digit digit
    rw [readInteger, skipSpace_cons space] at h
    dsimp only at h
    rw [if_pos first] at h
    split at h
    · rename_i read
      split at h
      · cases h
        exact number _ read
      · cases h
    · cases h
    · cases h

/-! ## One line -/

/-- A hexadecimal digit is not a line feed. -/
theorem hexDigit_ne_newline {n : ℕ} (h : n < 16) : hexDigit n ≠ '\n' := by
  interval_cases n <;> decide

/-- A character is written without a line feed. -/
theorem newline_escapeChar (c : Char) : '\n' ∉ escapeChar c := by
  rcases escapeChar_cases c with ⟨d, text, plain⟩ | ⟨control, text⟩ | ⟨visible, -, -, text⟩
  · rw [text]
    intro h
    rcases List.mem_cons.1 h with h | h
    · exact absurd h (by decide)
    · rw [← List.mem_singleton.1 h] at plain
      cases plain
  · rw [text]
    have high := hexDigit_ne_newline (n := c.toNat / 16) (by omega)
    have low := hexDigit_ne_newline (n := c.toNat % 16) (by omega)
    simp [Ne.symm high, Ne.symm low]
  · rw [text]
    intro h
    rw [← List.mem_singleton.1 h] at visible
    exact absurd visible (by decide)

/-- A text is written without a line feed. -/
theorem newline_renderText (s : String) : '\n' ∉ renderText s := by
  rw [renderText_eq, quoted]
  intro h
  simp only [List.mem_cons, List.mem_append, List.mem_flatMap] at h
  rcases h with h | ⟨c, -, h⟩ | h
  · exact absurd h (by decide)
  · exact newline_escapeChar c h
  · exact absurd h (by decide)

/-- An integer is written without a line feed. -/
theorem newline_renderInt (n : Int) : '\n' ∉ renderInt n := by
  have digits (m : ℕ) : '\n' ∉ Nat.toDigits 10 m := by
    intro h
    exact absurd (digits_toDigits m _ h) (by decide)
  rcases renderInt_cases n with ⟨m, -, text⟩ | ⟨m, -, text⟩
  · rw [text, List.mem_cons, not_or]
    exact ⟨by decide, digits (m + 1)⟩
  · rw [text]
    exact digits m

mutual
/-- **Compact JSON is one line.** -/
theorem newline_renderChars : ∀ j : Json, '\n' ∉ j.renderChars
  | .null => by rw [renderChars]; decide
  | .bool true => by rw [renderChars]; decide
  | .bool false => by rw [renderChars]; decide
  | .number n => by rw [renderChars]; exact newline_renderInt n
  | .text s => by rw [renderChars]; exact newline_renderText s
  | .array [] => by rw [renderChars]; decide
  | .array (v :: vs) => by
    have value := newline_renderChars v
    have items := newline_renderItems vs
    rw [renderChars]
    simp [value, items]
  | .object [] => by rw [renderChars]; decide
  | .object ((k, v) :: ms) => by
    have value := newline_renderChars v
    have members := newline_renderMembers ms
    rw [renderChars]
    simp [newline_renderText k, value, members]

/-- The items of an array are written on one line. -/
theorem newline_renderItems : ∀ vs : List Json, '\n' ∉ renderItems vs
  | [] => by rw [renderItems]; decide
  | v :: vs => by
    have value := newline_renderChars v
    have items := newline_renderItems vs
    rw [renderItems]
    simp [value, items]

/-- The members of an object are written on one line. -/
theorem newline_renderMembers : ∀ ms : List (String × Json), '\n' ∉ renderMembers ms
  | [] => by rw [renderMembers]; decide
  | (k, v) :: ms => by
    have value := newline_renderChars v
    have members := newline_renderMembers ms
    rw [renderMembers]
    simp [newline_renderText k, value, members]
end

end Json
end Casework
