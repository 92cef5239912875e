/-
# Timestamps read back

The exchange form of a timestamp reads as the timestamp (`read?_text`), for every year that
timestamps cover: four digits, or a sign and more; with a leap second; and with 0, 3, 6 or 9
digits of the fraction. Each scanner takes from the text what the writer of its field put there
and leaves what follows.
-/

import Casework.Proofs.Text.Digits

namespace Casework
namespace Timestamp

open Text

/-! ## The scanners -/

/-- A digit is not a blank. -/
theorem isBlank_eq_false {c : Char} (h : c.isDigit = true) : isBlank c = false := by
  simp only [Char.isDigit, Bool.and_eq_true, decide_eq_true_eq, ge_iff_le,
    UInt32.le_iff_toNat_le] at h
  have low : 48 ≤ c.toNat := h.1
  have high : c.toNat ≤ 57 := h.2
  simp only [isBlank, inRanges, blankRanges, List.any_cons, List.any_nil, Bool.or_false,
    Bool.or_eq_false_iff, Bool.and_eq_false_iff, decide_eq_false_iff_not]
  omega

/-- Nothing is trimmed before a character that is not blank. -/
theorem trimStart_cons {c : Char} {cs : List Char} (h : isBlank c = false) :
    trimStart (c :: cs) = c :: cs := by
  rw [trimStart, List.dropWhile_cons_of_neg]
  simp [h]

/-- Nothing is trimmed before a number. -/
theorem trimStart_digits {ds rest : List Char} (digits : Digits ds) (ne : ds ≠ []) :
    trimStart (ds ++ rest) = ds ++ rest := by
  obtain ⟨c, ds, rfl⟩ := List.exists_cons_of_ne_nil ne
  exact trimStart_cons (isBlank_eq_false (digits c (List.mem_cons_self ..)))

/-- As many digits as are taken at most are taken together. -/
theorem scanNumber_digits {most : ℕ} {ds rest : List Char} (digits : Digits ds) (ne : ds ≠ [])
    (full : ds.length = most) : scanNumber most (ds ++ rest) = some (digitsValue ds, rest) := by
  have taken : ((ds ++ rest).take most).takeWhile Char.isDigit = ds := by
    rw [← full, List.take_left, takeWhile_all digits]
  rw [scanNumber, trimStart_digits digits ne, taken, List.drop_left, if_neg]
  simpa using ne

/-- A number that was filled up to the most digits that are taken. -/
theorem scanNumber_padded {width n : ℕ} (rest : List Char) (pos : 0 < width)
    (h : n < 10 ^ width) :
    scanNumber width ((digitsPadded width n).toList ++ rest) = some (n, rest) := by
  rw [scanNumber_digits (digits_digitsPadded width n) (digitsPadded_ne_nil width n)
    (length_digitsPadded pos h), digitsValue_digitsPadded]

/-- A mark is read if it stands there. -/
theorem scanMark_cons {c : Char} {rest : List Char} (h : isBlank c = false) :
    scanMark c (c :: rest) = some ((), rest) := by
  rw [scanMark, trimStart_cons h]
  dsimp only
  rw [if_pos rfl]

/-- A year with a sign is read to its last digit. -/
theorem signed_digits {sign : Int} {n : ℕ} {rest : List Char} (stop : NoDigit rest) :
    scanYear.signed sign ((digitsPadded 4 n).toList ++ rest) = some (sign * n, rest) := by
  rw [scanYear.signed, takeWhile_digits (digits_digitsPadded 4 n) stop, List.drop_left, if_neg,
    digitsValue_digitsPadded]
  simpa using digitsPadded_ne_nil 4 n

/-- A year is read from what is written, whatever its sign, if no digit follows. -/
theorem scanYear_text (y : Int) {rest : List Char} (stop : NoDigit rest) :
    scanYear ((yearText y).toList ++ rest) = some (y, rest) := by
  rw [yearText]
  split
  · rename_i short
    have bound : y.toNat < 10 ^ 4 := by omega
    have number := scanNumber_padded rest (by decide) bound
    have digits := digits_digitsPadded 4 y.toNat
    obtain ⟨c, cs, text⟩ := List.exists_cons_of_ne_nil (digitsPadded_ne_nil 4 y.toNat)
    have digit : c.isDigit = true := digits c (text ▸ List.mem_cons_self ..)
    rw [scanYear, trimStart_digits digits (digitsPadded_ne_nil 4 _)]
    rw [text, List.cons_append] at number ⊢
    split
    · rename_i h
      rw [(List.cons.inj h).1] at digit
      exact absurd digit (by decide)
    · rename_i h
      rw [(List.cons.inj h).1] at digit
      exact absurd digit (by decide)
    · rw [number, Option.map_some]
      exact congrArg (fun n : Int => some (n, rest)) (Int.toNat_of_nonneg short.1)
  · split
    · rw [String.toList_append, List.append_assoc]
      have sign : trimStart ("-".toList ++ ((digitsPadded 4 y.natAbs).toList ++ rest)) =
          '-' :: ((digitsPadded 4 y.natAbs).toList ++ rest) := trimStart_cons (by decide)
      rw [scanYear, sign]
      show scanYear.signed (-1) _ = _
      rw [signed_digits stop]
      congr 2
      omega
    · rw [String.toList_append, List.append_assoc]
      have sign : trimStart ("+".toList ++ ((digitsPadded 4 y.natAbs).toList ++ rest)) =
          '+' :: ((digitsPadded 4 y.natAbs).toList ++ rest) := trimStart_cons (by decide)
      rw [scanYear, sign]
      show scanYear.signed 1 _ = _
      rw [signed_digits stop]
      congr 2
      omega

/-- A fraction in the fewest digits has the nanoseconds as its value. -/
theorem scanFraction_text {nanos : ℕ} (bound : nanos < 1000000000) {rest : List Char}
    (stop : NoDigit rest) (point : rest.head? ≠ some '.') :
    scanFraction ((fractionText nanos).toList ++ rest) = some (nanos, rest) := by
  have written (width n : ℕ) (pos : 0 < width) (most : width ≤ 9) (fits : n < 10 ^ width) :
      scanFraction (("." ++ digitsPadded width n).toList ++ rest) =
        some (n * 10 ^ (9 - width), rest) := by
    have length := length_digitsPadded pos fits
    have kept : (digitsPadded width n).toList.take 9 = (digitsPadded width n).toList :=
      List.take_of_length_le (by rw [length]; exact most)
    have text : ("." ++ digitsPadded width n).toList ++ rest =
        '.' :: ((digitsPadded width n).toList ++ rest) := by
      rw [String.toList_append, List.append_assoc]
      rfl
    rw [text, scanFraction, takeWhile_digits (digits_digitsPadded width n) stop, List.drop_left,
      kept, if_neg]
    · dsimp only
      rw [digitsValue_digitsPadded, length]
      rfl
    · simpa using digitsPadded_ne_nil width n
  rw [fractionText]
  split
  · rename_i zero
    rw [zero]
    rcases rest with _ | ⟨c, rest⟩
    · rfl
    · show scanFraction (c :: rest) = _
      rw [scanFraction]
      rintro cs h
      exact point (congrArg some (List.cons.inj h).1)
  · split
    · rw [written 3 _ (by decide) (by decide) (by omega)]
      congr 2
      omega
    · split
      · rw [written 6 _ (by decide) (by decide) (by omega)]
        congr 2
        omega
      · rw [written 9 _ (by decide) (by decide) (by omega)]
        congr 2
        omega

/-! ## The whole text -/

/-- No month has more than 31 days. -/
theorem daysInMonth_le (year : Int) (month : ℕ) : daysInMonth year month ≤ 31 := by
  unfold daysInMonth
  repeat' split
  all_goals omega

/-- What has a day is one of the twelve months. -/
theorem month_le {year : Int} {month : ℕ} (h : 1 ≤ daysInMonth year month) : month ≤ 12 := by
  by_contra! late
  unfold daysInMonth at h
  split at h <;> omega

/-- A month has two digits. -/
theorem month_lt {d : Date} (h : d.isValid = true) : d.month < 10 ^ 2 := by
  simp only [Date.isValid, Bool.and_eq_true, decide_eq_true_eq] at h
  have := month_le (Nat.le_trans h.1.2 h.2)
  omega

/-- A day has two digits. -/
theorem day_lt {d : Date} (h : d.isValid = true) : d.day < 10 ^ 2 := by
  simp only [Date.isValid, Bool.and_eq_true, decide_eq_true_eq] at h
  have := daysInMonth_le d.year d.month
  omega

/-- **A date is read** as it is written. -/
theorem scanDate_text {d : Date} (h : d.isValid = true) {rest : List Char} :
    scanDate ((dateText d).toList ++ rest) = some (d, rest) := by
  have month := scanNumber_padded ('-' :: ((digitsPadded 2 d.day).toList ++ rest)) (by decide)
    (month_lt h)
  have day := scanNumber_padded rest (by decide) (day_lt h)
  have text : (dateText d).toList ++ rest = (yearText d.year).toList ++
      '-' :: ((digitsPadded 2 d.month).toList ++
        '-' :: ((digitsPadded 2 d.day).toList ++ rest)) := by
    rw [dateText]
    simp only [String.toList_append, List.append_assoc]
    rfl
  rw [text, scanDate, scanYear_text _ (NoDigit.cons (by decide))]
  simp only [Option.bind_eq_bind, Option.bind_some]
  rw [scanMark_cons (by decide)]
  simp only [Option.bind_some]
  rw [month]
  simp only [Option.bind_some]
  rw [scanMark_cons (by decide)]
  simp only [Option.bind_some]
  rw [day]
  rfl

/-- **Hour and minute are read** as they are written. -/
theorem scanClock_text {t : DayTime} (h : t.isValid = true) {rest : List Char} :
    scanClock ((clockText t).toList ++ rest) = some ((t.hour, t.minute), rest) := by
  simp only [DayTime.isValid, Bool.and_eq_true, decide_eq_true_eq] at h
  have bounds : t.hour < 10 ^ 2 ∧ t.minute < 10 ^ 2 := by omega
  have hour := scanNumber_padded (':' :: ((digitsPadded 2 t.minute).toList ++ rest)) (by decide)
    bounds.1
  have minute := scanNumber_padded rest (by decide) bounds.2
  have text : (clockText t).toList ++ rest =
      (digitsPadded 2 t.hour).toList ++ ':' :: ((digitsPadded 2 t.minute).toList ++ rest) := by
    rw [clockText]
    simp only [String.toList_append, List.append_assoc]
    rfl
  rw [text, scanClock, hour]
  simp only [Option.bind_eq_bind, Option.bind_some]
  rw [scanMark_cons (by decide)]
  simp only [Option.bind_some]
  rw [minute]
  rfl

/-- **A time is read** as it is written, if nothing goes on behind it. -/
theorem scanTime_text {t : DayTime} (h : t.isValid = true) {rest : List Char}
    (stop : NoDigit rest) (point : rest.head? ≠ some '.') :
    scanTime ((timeText t).toList ++ rest) = some (t, rest) := by
  have valid := h
  simp only [DayTime.isValid, Bool.and_eq_true, decide_eq_true_eq] at h
  have bound : t.second < 10 ^ 2 := by omega
  have second := scanNumber_padded ((fractionText t.nanos).toList ++ rest) (by decide) bound
  have text : (timeText t).toList ++ rest = (clockText t).toList ++
      ':' :: ((digitsPadded 2 t.second).toList ++ ((fractionText t.nanos).toList ++ rest)) := by
    rw [timeText]
    simp only [String.toList_append, List.append_assoc]
    rfl
  rw [text, scanTime, scanClock_text valid]
  simp only [Option.bind_eq_bind, Option.bind_some]
  rw [scanMark_cons (by decide)]
  simp only [Option.bind_some]
  rw [second]
  simp only [Option.bind_some]
  rw [scanFraction_text (by omega) stop point]
  rfl

/-- Clocks of the UTC calendar show the fields of a timestamp. -/
theorem ofLocal?_zero (t : Timestamp) : ofLocal? t.date t.time 0 = some t := by
  have valid := t.time_valid
  simp only [DayTime.isValid, Bool.and_eq_true, decide_eq_true_eq] at valid
  have hour : ((t.time.hour : Int) * 60 + t.time.minute - 0).toNat / 60 = t.time.hour := by omega
  have minute : ((t.time.hour : Int) * 60 + t.time.minute - 0).toNat % 60 = t.time.minute := by
    omega
  rw [ofLocal?, if_pos (by rw [t.date_valid, t.time_valid]; rfl)]
  dsimp only
  rw [if_neg (by omega), if_neg (by omega)]
  dsimp only
  rw [hour, minute, ofFields?, dif_pos t.date_valid, dif_pos t.time_valid]

/-- **A timestamp reads back from its exchange form.** -/
theorem read?_text (t : Timestamp) : read? t.text = some t := by
  have text : t.text.toList = (dateText t.date).toList ++
      'T' :: ((timeText t.time).toList ++ ['Z']) := by
    have letters : "T".toList = ['T'] ∧ "Z".toList = ['Z'] := ⟨rfl, rfl⟩
    rw [Timestamp.text, String.toList_append, String.toList_append, String.toList_append,
      letters.1, letters.2, List.append_assoc, List.append_assoc, List.singleton_append]
  rw [read?, text, scanDate_text t.date_valid]
  simp only [Option.bind_eq_bind, Option.bind_some]
  have divider (cs : List Char) : scanDivider ('T' :: cs) = some ((), cs) := rfl
  rw [divider]
  simp only [Option.bind_some]
  rw [scanTime_text t.time_valid (NoDigit.cons (by decide)) (by decide)]
  simp only [Option.bind_some]
  exact ofLocal?_zero t

end Timestamp
end Casework
