/-
# Characters as bytes, whole and cut off

Bytes that a connection delivers may end anywhere. `Cut p whole` says that `p` is `whole` with
something missing at its end, and `Cut.append` and `Cut.cons` say where in a concatenation the
cut lies; readers of every kind are followed with these two.

For UTF-8 that gives two facts. All the bytes of a text read as the text (`decode?_utf8Bytes`),
and if some of them, from the first on, read as a text at all, then the cut lies between two
characters and the text read is a front part of the whole (`decode?_prefix`).

Conversely, bytes that read as a text are the bytes of that text (`decode?_eq_some_iff`): no other
sequence of bytes is taken for it.
-/

import Mathlib.Data.List.Basic
import Casework.Text.Utf8

namespace Casework

/-- `p` is `whole` without a part at its end. -/
def Cut {α : Type} (p whole : List α) : Prop := ∃ q, q ≠ [] ∧ p ++ q = whole

namespace Cut

variable {α : Type} {p x y : List α} {a : α}

/-- Nothing can be cut off an empty list. -/
theorem not_nil : ¬ Cut p [] := by
  rintro ⟨q, hq, h⟩
  exact hq (List.append_eq_nil_iff.1 h).2

/-- A cut is at the front, or behind the first element. -/
theorem cons (h : Cut p (a :: x)) : p = [] ∨ ∃ p', p = a :: p' ∧ Cut p' x := by
  obtain ⟨q, hq, e⟩ := h
  rcases p with _ | ⟨b, p⟩
  · exact .inl rfl
  · obtain ⟨rfl, rfl⟩ := List.cons.inj e
    exact .inr ⟨p, rfl, q, hq, rfl⟩

/-- A cut is in the first part, or behind it in the second one. -/
theorem append (h : Cut p (x ++ y)) : Cut p x ∨ ∃ p', p = x ++ p' ∧ Cut p' y := by
  obtain ⟨q, hq, e⟩ := h
  rcases List.append_eq_append_iff.1 e with ⟨t, rfl, rfl⟩ | ⟨t, rfl, rfl⟩
  · rcases t with _ | ⟨b, t⟩
    · exact .inr ⟨[], by simp, y, by simpa using hq, rfl⟩
    · exact .inl ⟨b :: t, List.cons_ne_nil _ _, rfl⟩
  · exact .inr ⟨t, rfl, q, hq, rfl⟩

/-- What is cut off is shorter. -/
theorem length_lt (h : Cut p x) : p.length < x.length := by
  obtain ⟨q, hq, rfl⟩ := h
  have := List.length_pos_of_ne_nil hq
  rw [List.length_append]
  omega

/-- What is left has nothing new in it. -/
theorem subset (h : Cut p x) : p ⊆ x := by
  obtain ⟨q, -, rfl⟩ := h
  exact List.subset_append_left _ _

/-- A front part is the whole, or a cut. -/
theorem of_prefix (h : p <+: x) : p = x ∨ Cut p x := by
  obtain ⟨q, rfl⟩ := h
  rcases q with _ | ⟨b, q⟩
  · exact .inl (by simp)
  · exact .inr ⟨b :: q, List.cons_ne_nil _ _, rfl⟩

end Cut

namespace Text

/-! ## One character -/

/-- A byte is its number. -/
theorem toNat_byteOf {n : ℕ} (h : n < 256) : (byteOf n).toNat = n := by
  rw [byteOf, UInt8.toNat_ofNat']
  omega

/-- The code point of a character is no surrogate and at most `U+10FFFF`. -/
theorem toNat_valid (c : Char) : c.toNat < 0xD800 ∨ 0xDFFF < c.toNat ∧ c.toNat < 0x110000 :=
  c.valid

/-- A follower in its range adds six bits. -/
theorem readFollowers_cons {range : ℕ × ℕ} {acc size count n : ℕ} {rest : List UInt8}
    (hn : n < 256) (low : range.1 ≤ n) (high : n ≤ range.2) :
    readFollowers range acc size (count + 1) (byteOf n :: rest) =
      readFollowers (0x80, 0xBF) (acc * 0x40 + (n - 0x80)) (size + 1) count rest := by
  rw [readFollowers, toNat_byteOf hn, if_pos ⟨low, high⟩]

/-- After the last byte the number that was put together is the code point. -/
theorem readFollowers_zero {range : ℕ × ℕ} {acc size n : ℕ} {rest : List UInt8} (h : acc = n) :
    readFollowers range acc size 0 rest = .char (Char.ofNat n) size := by
  rw [readFollowers, h]

/-- Where bytes are missing, the piece is a broken one. -/
theorem readFollowers_short (range : ℕ × ℕ) (acc size : ℕ) {count : ℕ} {bs : List UInt8}
    (h : bs.length < count) : ∃ n, readFollowers range acc size count bs = .broken n := by
  induction bs generalizing range acc size count with
  | nil =>
    obtain ⟨count, rfl⟩ := Nat.exists_eq_add_of_lt h
    exact ⟨size, by rw [List.length_nil, Nat.zero_add, readFollowers]⟩
  | cons b bs ih =>
    rcases count with _ | count
    · simp at h
    · rw [readFollowers]
      split
      · exact ih _ _ _ (by simpa using h)
      · exact ⟨size, rfl⟩

/-- The first byte of a character says how many follow. -/
theorem followers_encodeChar (c : Char) :
    ∃ b bs, encodeChar c = b :: bs ∧ followers b.toNat = some bs.length := by
  have valid := toNat_valid c
  rw [encodeChar]
  generalize c.toNat = n at valid ⊢
  split
  · refine ⟨_, _, rfl, ?_⟩
    rw [toNat_byteOf (by omega), followers, if_pos (by omega)]
    rfl
  · split
    · refine ⟨_, _, rfl, ?_⟩
      rw [toNat_byteOf (by omega), followers, if_neg (by omega), if_pos (by omega)]
      rfl
    · split
      · refine ⟨_, _, rfl, ?_⟩
        rw [toNat_byteOf (by omega), followers, if_neg (by omega), if_neg (by omega),
          if_pos (by omega)]
        rfl
      · refine ⟨_, _, rfl, ?_⟩
        rw [toNat_byteOf (by omega), followers, if_neg (by omega), if_neg (by omega),
          if_neg (by omega), if_pos (by omega)]
        rfl

/-- The range of the second byte leaves room for that of every character. -/
theorem secondRange_two {n : ℕ} (low : 0xC2 ≤ n) (high : n ≤ 0xDF) :
    secondRange n = (0x80, 0xBF) := by
  rw [secondRange, if_neg (by omega), if_neg (by omega), if_neg (by omega), if_neg (by omega)]

/-- The second of three bytes is in its range, for no surrogate is written. -/
theorem secondRange_three {n : ℕ} (low : 0x800 ≤ n) (high : n < 0x10000)
    (plain : n < 0xD800 ∨ 0xDFFF < n) :
    (secondRange (0xE0 + n / 0x1000)).1 ≤ 0x80 + n / 0x40 % 0x40 ∧
      0x80 + n / 0x40 % 0x40 ≤ (secondRange (0xE0 + n / 0x1000)).2 := by
  rw [secondRange]
  repeat' split
  all_goals dsimp only; omega

/-- The second of four bytes is in its range, for no number beyond the last is written. -/
theorem secondRange_four {n : ℕ} (low : 0x10000 ≤ n) (high : n < 0x110000) :
    (secondRange (0xF0 + n / 0x40000)).1 ≤ 0x80 + n / 0x1000 % 0x40 ∧
      0x80 + n / 0x1000 % 0x40 ≤ (secondRange (0xF0 + n / 0x40000)).2 := by
  rw [secondRange]
  repeat' split
  all_goals dsimp only; omega

/-- The bytes of a character, whatever follows them, are the piece of that character. -/
theorem readPiece_encodeChar {c : Char} {b : UInt8} {bs : List UInt8}
    (h : encodeChar c = b :: bs) (rest : List UInt8) :
    readPiece b (bs ++ rest) = .char c (bs.length + 1) := by
  obtain ⟨b', bs', h', followed⟩ := followers_encodeChar c
  obtain ⟨rfl, rfl⟩ := List.cons.inj (h'.symm.trans h)
  clear h'
  have valid := toNat_valid c
  rw [readPiece, followed]
  dsimp only
  obtain ⟨n, hn⟩ : ∃ n, c.toNat = n := ⟨_, rfl⟩
  have back : c = Char.ofNat n := hn ▸ (Char.ofNat_toNat c).symm
  rw [hn] at valid
  rw [encodeChar, hn] at h
  rw [back]
  -- one case for each length; in each the low six bits of the bytes add up to the code point
  split at h
  · obtain ⟨rfl, rfl⟩ := List.cons.inj h
    rw [toNat_byteOf (by omega)]
    exact readFollowers_zero rfl
  · split at h
    · obtain ⟨rfl, rfl⟩ := List.cons.inj h
      have range := secondRange_two (n := 0xC0 + n / 0x40) (by omega) (by omega)
      have lead : leadBits (0xC0 + n / 0x40) 1 = n / 0x40 := Nat.add_sub_cancel_left ..
      simp only [List.length_cons, List.length_nil, List.cons_append, List.nil_append, Nat.zero_add]
      rw [toNat_byteOf (by omega), range, lead,
        readFollowers_cons (by omega) (by omega) (by dsimp only; omega)]
      exact readFollowers_zero (by omega)
    · split at h
      · obtain ⟨rfl, rfl⟩ := List.cons.inj h
        have range := secondRange_three (n := n) (by omega) (by omega) (by omega)
        have lead : leadBits (0xE0 + n / 0x1000) 2 = n / 0x1000 := Nat.add_sub_cancel_left ..
        simp only [List.length_cons, List.length_nil, List.cons_append, List.nil_append,
          Nat.zero_add, Nat.reduceAdd]
        rw [toNat_byteOf (by omega), lead, readFollowers_cons (by omega) range.1 range.2,
          readFollowers_cons (by omega) (by omega) (by dsimp only; omega)]
        exact readFollowers_zero (by omega)
      · obtain ⟨rfl, rfl⟩ := List.cons.inj h
        have range := secondRange_four (n := n) (by omega) (by omega)
        have lead : leadBits (0xF0 + n / 0x40000) 3 = n / 0x40000 := Nat.add_sub_cancel_left ..
        simp only [List.length_cons, List.length_nil, List.cons_append, List.nil_append,
          Nat.zero_add, Nat.reduceAdd]
        rw [toNat_byteOf (by omega), lead, readFollowers_cons (by omega) range.1 range.2,
          readFollowers_cons (by omega) (by omega) (by dsimp only; omega),
          readFollowers_cons (by omega) (by omega) (by dsimp only; omega)]
        exact readFollowers_zero (by omega)

/-! ## Texts -/

/-- **A character is read back** from its bytes. -/
theorem decodeWith_encodeChar (c : Char) (rest : List UInt8) :
    decodeWith none (encodeChar c ++ rest) = (decodeWith none rest).map (c :: ·) := by
  obtain ⟨b, bs, h, -⟩ := followers_encodeChar c
  rw [h, List.cons_append, decodeWith, readPiece_encodeChar h]
  dsimp only
  rw [Nat.add_sub_cancel, List.drop_left]

/-- A character whose last bytes are missing is no character. -/
theorem decodeWith_cut {c : Char} {p : List UInt8} (cut : Cut p (encodeChar c)) :
    p = [] ∨ decodeWith none p = none := by
  obtain ⟨b, bs, h, followed⟩ := followers_encodeChar c
  rw [h] at cut
  rcases cut.cons with rfl | ⟨q, rfl, missing⟩
  · exact .inl rfl
  · obtain ⟨n, broken⟩ := readFollowers_short (secondRange b.toNat)
      (leadBits b.toNat bs.length) 1 missing.length_lt
    refine .inr ?_
    rw [decodeWith, readPiece, followed]
    dsimp only
    rw [broken]

/-- **Characters are read back** from their bytes. -/
theorem decodeWith_encodeChars (cs : List Char) : decodeWith none (encodeChars cs) = some cs := by
  induction cs with
  | nil => rw [encodeChars, List.flatMap_nil, decodeWith]
  | cons c cs ih =>
    rw [encodeChars, List.flatMap_cons, decodeWith_encodeChar, ← encodeChars, ih, Option.map_some]

/-- The bytes of a text read as the text. -/
theorem decode?_utf8Bytes (s : String) : decode? (utf8Bytes s) = some s := by
  rw [decode?, utf8Bytes, decodeWith_encodeChars, Option.map_some, String.ofList_toList]

/-- Some of the bytes of a text, from the first on, either read as nothing or are the bytes of a
front part of the text. -/
theorem decodeWith_prefix {p : List UInt8} {cs ds : List Char} (front : p <+: encodeChars cs)
    (read : decodeWith none p = some ds) : ds <+: cs ∧ p = encodeChars ds := by
  induction cs generalizing p ds with
  | nil =>
    rw [encodeChars, List.flatMap_nil, List.prefix_nil] at front
    subst front
    rw [decodeWith] at read
    cases read
    exact ⟨List.prefix_rfl, rfl⟩
  | cons c cs ih =>
    have empty : p = [] → ds <+: c :: cs ∧ p = encodeChars ds := by
      rintro rfl
      rw [decodeWith] at read
      cases read
      exact ⟨List.nil_prefix, rfl⟩
    have behind (q : List UInt8) (hp : p = encodeChar c ++ q) (hq : q <+: encodeChars cs) :
        ds <+: c :: cs ∧ p = encodeChars ds := by
      rw [hp, decodeWith_encodeChar] at read
      obtain ⟨es, tail, rfl⟩ := Option.map_eq_some_iff.1 read
      obtain ⟨more, bytes⟩ := ih hq tail
      rw [hp, bytes]
      exact ⟨List.cons_prefix_cons.2 ⟨rfl, more⟩, rfl⟩
    rw [encodeChars, List.flatMap_cons, ← encodeChars] at front
    rcases Cut.of_prefix front with whole | cut
    · exact behind _ whole List.prefix_rfl
    · rcases cut.append with cut | ⟨q, hp, more, -, hq⟩
      · rcases decodeWith_cut cut with none | none
        · exact empty none
        · rw [none] at read
          cases read
      · exact behind q hp ⟨more, hq⟩

/-- **A text cut anywhere reads as a front part of itself, if it reads at all.** -/
theorem decode?_prefix {p : List UInt8} {s t : String} (front : p <+: utf8Bytes s)
    (read : decode? p = some t) : t.toList <+: s.toList ∧ p = utf8Bytes t := by
  obtain ⟨ds, characters, rfl⟩ := Option.map_eq_some_iff.1 read
  rw [utf8Bytes, String.toList_ofList]
  exact decodeWith_prefix front characters

/-- The only character with an ASCII byte among its bytes is that of the byte. -/
theorem eq_of_mem_encodeChar {c : Char} {b : UInt8} (ascii : b.toNat < 0x80)
    (h : b ∈ encodeChar c) : c = Char.ofNat b.toNat := by
  have valid := toNat_valid c
  have bytes {n : ℕ} (hn : n < 256) (e : b = byteOf n) : n = b.toNat := by
    rw [e, toNat_byteOf hn]
  obtain ⟨n, hn⟩ : ∃ n, c.toNat = n := ⟨_, rfl⟩
  rw [hn] at valid
  have code : n = b.toNat := by
    rw [encodeChar, hn] at h
    split at h
    · exact bytes (by omega) (List.mem_singleton.1 h)
    · exfalso
      split at h
      · simp only [List.mem_cons, List.not_mem_nil, or_false] at h
        rcases h with h | h <;> have := bytes (by omega) h <;> omega
      · split at h
        · simp only [List.mem_cons, List.not_mem_nil, or_false] at h
          rcases h with h | h | h <;> have := bytes (by omega) h <;> omega
        · simp only [List.mem_cons, List.not_mem_nil, or_false] at h
          rcases h with h | h | h | h <;> have := bytes (by omega) h <;> omega
  rw [← Char.ofNat_toNat c, hn, code]

/-- The only character with a line feed among its bytes is the line feed. -/
theorem mem_encodeChar {c : Char} (h : (0x0A : UInt8) ∈ encodeChar c) : c = '\n' :=
  eq_of_mem_encodeChar (by decide) h

/-! ## Bytes that read as a text -/

theorem byteOf_toNat (b : UInt8) : byteOf b.toNat = b := UInt8.ofNat_toNat

/-- A number that is no surrogate and not too large is that of a character. -/
theorem toNat_ofNat {n : ℕ} (valid : n < 0xD800 ∨ 0xDFFF < n ∧ n < 0x110000) :
    (Char.ofNat n).toNat = n := by
  have isValid : n.isValidChar := valid
  rw [Char.ofNat, dif_pos isValid]
  rfl

/-- A byte that follows is read if it is in its range. -/
theorem readFollowers_succ_eq_char {range : ℕ × ℕ} {acc size size' count : ℕ} {c : Char}
    {rest : List UInt8} (h : readFollowers range acc size (count + 1) rest = .char c size') :
    ∃ b rest', rest = b :: rest' ∧ range.1 ≤ b.toNat ∧ b.toNat ≤ range.2 ∧
      readFollowers (0x80, 0xBF) (acc * 0x40 + (b.toNat - 0x80)) (size + 1) count rest' =
        .char c size' := by
  cases rest with
  | nil => cases h
  | cons b rest =>
    rw [readFollowers] at h
    split at h
    · next inside => exact ⟨b, rest, rfl, inside.1, inside.2, h⟩
    · cases h

/-- When no followers are left, the character is the one of the bits. -/
theorem readFollowers_zero_eq_char {range : ℕ × ℕ} {acc size size' : ℕ} {c : Char}
    {rest : List UInt8} (h : readFollowers range acc size 0 rest = .char c size') :
    c = Char.ofNat acc ∧ size' = size := by
  rw [readFollowers] at h
  cases h
  exact ⟨rfl, rfl⟩

/-- What a first byte says about the number of bytes that follow. -/
theorem followers_eq_some {n count : ℕ} (h : followers n = some count) :
    count = 0 ∧ n < 0x80 ∨ count = 1 ∧ 0xC2 ≤ n ∧ n ≤ 0xDF ∨ count = 2 ∧ 0xE0 ≤ n ∧ n ≤ 0xEF ∨
      count = 3 ∧ 0xF0 ≤ n ∧ n ≤ 0xF4 := by
  unfold followers at h
  split_ifs at h <;> cases h <;> simp_all

/-- The bounds of the second byte keep three bytes off surrogates and short codes. -/
theorem secondRange_three_bounds {n n₁ : ℕ} (first : 0xE0 ≤ n ∧ n ≤ 0xEF)
    (low : (secondRange n).1 ≤ n₁) (high : n₁ ≤ (secondRange n).2) :
    0x80 ≤ n₁ ∧ n₁ ≤ 0xBF ∧ (n = 0xE0 → 0xA0 ≤ n₁) ∧ (n = 0xED → n₁ ≤ 0x9F) := by
  unfold secondRange at low high
  split_ifs at low high <;> simp only at low high <;> omega

/-- The second of four bytes is a follower, and within the bounds that the first sets. -/
theorem secondRange_four_bounds {n n₁ : ℕ} (first : 0xF0 ≤ n ∧ n ≤ 0xF4)
    (low : (secondRange n).1 ≤ n₁) (high : n₁ ≤ (secondRange n).2) :
    0x80 ≤ n₁ ∧ n₁ ≤ 0xBF ∧ (n = 0xF0 → 0x90 ≤ n₁) ∧ (n = 0xF4 → n₁ ≤ 0x8F) := by
  unfold secondRange at low high
  split_ifs at low high <;> simp only at low high <;> omega

/-- The bytes of the character with a code. -/
theorem encodeChar_ofNat {n : ℕ} (valid : n < 0xD800 ∨ 0xDFFF < n ∧ n < 0x110000) :
    encodeChar (Char.ofNat n) =
      if n < 0x80 then [byteOf n]
      else if n < 0x800 then [byteOf (0xC0 + n / 0x40), byteOf (0x80 + n % 0x40)]
      else if n < 0x10000 then
        [byteOf (0xE0 + n / 0x1000), byteOf (0x80 + n / 0x40 % 0x40), byteOf (0x80 + n % 0x40)]
      else
        [byteOf (0xF0 + n / 0x40000), byteOf (0x80 + n / 0x1000 % 0x40),
          byteOf (0x80 + n / 0x40 % 0x40), byteOf (0x80 + n % 0x40)] := by
  rw [encodeChar, toNat_ofNat valid]

/-- **A piece that is a character** begins with the bytes of that character. -/
theorem encodeChar_of_readPiece {b : UInt8} {rest : List UInt8} {c : Char} {size : ℕ}
    (h : readPiece b rest = .char c size) :
    ∃ bs, encodeChar c = b :: bs ∧ size = bs.length + 1 ∧ bs <+: rest := by
  unfold readPiece at h
  split at h
  · cases h
  · next count followed =>
    have byte {b : UInt8} {n : ℕ} (same : n = b.toNat) : byteOf n = b := by
      rw [same, byteOf_toNat]
    rcases followers_eq_some followed with
      ⟨rfl, first⟩ | ⟨rfl, first⟩ | ⟨rfl, first⟩ | ⟨rfl, first⟩
    · obtain ⟨code, sized⟩ := readFollowers_zero_eq_char h
      refine ⟨[], ?_, sized, List.nil_prefix⟩
      have lead : leadBits b.toNat 0 = b.toNat := rfl
      rw [code, lead, encodeChar_ofNat (.inl (by omega)), if_pos first, byteOf_toNat]
    · rw [secondRange_two first.1 first.2] at h
      obtain ⟨b₁, rest₁, rfl, low₁, high₁, h⟩ := readFollowers_succ_eq_char h
      obtain ⟨code, sized⟩ := readFollowers_zero_eq_char h
      refine ⟨[b₁], ?_, sized, ⟨rest₁, rfl⟩⟩
      have lead : leadBits b.toNat 1 = b.toNat - 0xC0 := rfl
      rw [code, lead, encodeChar_ofNat (by omega), if_neg (by omega), if_pos (by omega)]
      simp only [List.cons.injEq, and_true]
      exact ⟨byte (by omega), byte (by omega)⟩
    · obtain ⟨b₁, rest₁, rfl, low₁, high₁, h⟩ := readFollowers_succ_eq_char h
      obtain ⟨b₂, rest₂, rfl, low₂, high₂, h⟩ := readFollowers_succ_eq_char h
      obtain ⟨code, sized⟩ := readFollowers_zero_eq_char h
      have bounds := secondRange_three_bounds first low₁ high₁
      refine ⟨[b₁, b₂], ?_, sized, ⟨rest₂, rfl⟩⟩
      have lead : leadBits b.toNat 2 = b.toNat - 0xE0 := rfl
      rw [code, lead, encodeChar_ofNat (by omega), if_neg (by omega), if_neg (by omega),
        if_pos (by omega)]
      simp only [List.cons.injEq, and_true]
      exact ⟨byte (by omega), byte (by omega), byte (by omega)⟩
    · obtain ⟨b₁, rest₁, rfl, low₁, high₁, h⟩ := readFollowers_succ_eq_char h
      obtain ⟨b₂, rest₂, rfl, low₂, high₂, h⟩ := readFollowers_succ_eq_char h
      obtain ⟨b₃, rest₃, rfl, low₃, high₃, h⟩ := readFollowers_succ_eq_char h
      obtain ⟨code, sized⟩ := readFollowers_zero_eq_char h
      have bounds := secondRange_four_bounds first low₁ high₁
      refine ⟨[b₁, b₂, b₃], ?_, sized, ⟨rest₃, rfl⟩⟩
      have lead : leadBits b.toNat 3 = b.toNat - 0xF0 := rfl
      rw [code, lead, encodeChar_ofNat (by omega), if_neg (by omega), if_neg (by omega),
        if_neg (by omega)]
      simp only [List.cons.injEq, and_true]
      exact ⟨byte (by omega), byte (by omega), byte (by omega), byte (by omega)⟩

/-- **Bytes that read as a text are the bytes of that text.** -/
theorem encodeChars_of_decodeWith {bytes : List UInt8} {cs : List Char}
    (h : decodeWith none bytes = some cs) : encodeChars cs = bytes := by
  induction cs generalizing bytes with
  | nil =>
    cases bytes with
    | nil => rfl
    | cons b rest =>
      rw [decodeWith] at h
      split at h
      · simp at h
      · cases h
  | cons c cs ih =>
    cases bytes with
    | nil => simp [decodeWith] at h
    | cons b rest =>
      rw [decodeWith] at h
      split at h
      · next c' size piece =>
        obtain ⟨cs', tail, same⟩ := Option.map_eq_some_iff.1 h
        obtain ⟨rfl, rfl⟩ := List.cons.inj same
        obtain ⟨bs, own, rfl, tail', rfl⟩ := encodeChar_of_readPiece piece
        rw [Nat.add_sub_cancel, List.drop_left] at tail
        rw [encodeChars, List.flatMap_cons, own, ← encodeChars, ih tail, List.cons_append]
      · cases h

/-- **Bytes are a text** if and only if they are the bytes of it. -/
theorem decode?_eq_some_iff {bytes : List UInt8} {s : String} :
    decode? bytes = some s ↔ bytes = utf8Bytes s := by
  constructor
  · intro h
    obtain ⟨cs, characters, rfl⟩ := Option.map_eq_some_iff.1 h
    rw [utf8Bytes, String.toList_ofList, encodeChars_of_decodeWith characters]
  · rintro rfl
    exact decode?_utf8Bytes s

/-- Characters that are left out take their bytes with them. -/
theorem encodeChars_sublist {cs ds : List Char} (part : cs.Sublist ds) :
    (encodeChars cs).Sublist (encodeChars ds) := by
  induction part with
  | slnil => exact List.Sublist.slnil
  | cons c _ ih => exact ih.trans (List.sublist_append_right _ _)
  | cons_cons c _ ih => exact ih.append_left _

/-- Texts are told apart by their bytes. -/
theorem encodeChars_injective {cs ds : List Char} (same : encodeChars cs = encodeChars ds) :
    cs = ds := by
  have read := decodeWith_encodeChars cs
  rw [same, decodeWith_encodeChars] at read
  exact (Option.some.inj read).symm

end Text
end Casework
