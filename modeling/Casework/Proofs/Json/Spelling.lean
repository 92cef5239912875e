/-
# Texts as they may be spelled

A character of a text may stand for itself, for another with a letter behind a backslash, or be
given by the digits of its one code unit or of its two surrogates (`SpellsChar`). A text in any
spelling is read as what it stands for, whatever follows it (`Spells.textBody`), and what is
written is one of the spellings (`spells_quoted`).
-/

import Mathlib.Tactic.IntervalCases
import Casework.Json.Reader

namespace Casework
namespace Json

open Text

/-! ## Characters -/

/-- A hexadecimal digit is read as it is written. -/
theorem hexValue?_hexDigit {n : ℕ} (h : n < 16) : hexValue? (hexDigit n) = some n := by
  interval_cases n <;> decide

/-- The four digits of a control character are read as they are written. -/
theorem hexQuad_hexDigit {n : ℕ} (h : n < 0x20) (rest : List Char) :
    hexQuad ('0' :: '0' :: hexDigit (n / 16) :: hexDigit (n % 16) :: rest) = some (n, rest) := by
  have zero : hexValue? '0' = some 0 := by decide
  rw [hexQuad, zero, hexValue?_hexDigit (by omega), hexValue?_hexDigit (by omega)]
  dsimp only
  congr 2
  omega

/-- What follows four digits is left. -/
theorem hexQuad_append {quad : List Char} {n : ℕ} (h : hexQuad quad = some (n, []))
    (rest : List Char) : hexQuad (quad ++ rest) = some (n, rest) := by
  unfold hexQuad at h
  split at h
  · split at h
    · rename_i ha hb hc hd
      obtain ⟨rfl, rfl⟩ := Prod.mk.inj (Option.some.inj h)
      simp only [List.cons_append, List.nil_append, hexQuad, ha, hb, hc, hd]
    · cases h
  · cases h

/-- A character in a text: as itself, with a letter or with digits after a backslash, the digits
being those of the character or of its two surrogates. -/
inductive SpellsChar : List Char → Char → Prop
  | plain {c} (visible : 0x20 ≤ c.toNat) (quote : c ≠ '"') (backslash : c ≠ '\\') :
      SpellsChar [c] c
  | letter {e c} (escape : plainEscape? e = some c) : SpellsChar ['\\', e] c
  | unit {quad n} (hex : hexQuad quad = some (n, [])) (whole : ¬ (0xD800 ≤ n ∧ n < 0xE000)) :
      SpellsChar ('\\' :: 'u' :: quad) (Char.ofNat n)
  | pair {high low n m} (first : hexQuad high = some (n, []))
      (second : hexQuad low = some (m, [])) (leads : 0xD800 ≤ n ∧ n < 0xDC00)
      (trails : 0xDC00 ≤ m ∧ m < 0xE000) :
      SpellsChar ('\\' :: 'u' :: (high ++ '\\' :: 'u' :: low))
        (Char.ofNat (0x10000 + (n - 0xD800) * 0x400 + (m - 0xDC00)))

/-- A spelled character is read as the character. -/
theorem SpellsChar.textChar {text : List Char} {c : Char} (h : SpellsChar text c)
    (rest : List Char) : Json.textChar (text ++ rest) = .ok (some c, rest) := by
  cases h with
  | plain visible quote backslash =>
    rw [List.singleton_append, Json.textChar, if_neg (by omega)]
    all_goals simp_all
  | letter escape =>
    rw [List.cons_append, List.singleton_append, Json.textChar, escape]
    rintro rfl
    cases escape
  | unit hex whole =>
    rw [List.cons_append, List.cons_append, Json.textChar, unicodeEscape?, hexQuad_append hex]
    dsimp only
    rw [if_neg (by omega), if_neg (by omega)]
  | @pair high low n m first second leads trails =>
    have two : unicodeEscape? (high ++ '\\' :: 'u' :: (low ++ rest)) =
        some (Char.ofNat (0x10000 + (n - 0xD800) * 0x400 + (m - 0xDC00)), rest) := by
      rw [unicodeEscape?, hexQuad_append first]
      simp only [if_pos leads, hexQuad_append second, if_pos trails]
    rw [List.cons_append, List.cons_append, List.append_assoc, List.cons_append, List.cons_append,
      Json.textChar, two]

/-- A character is spelled with something. -/
theorem SpellsChar.ne_nil {text : List Char} {c : Char} (h : SpellsChar text c) : text ≠ [] := by
  cases h <;> exact List.cons_ne_nil _ _

/-- A character is written as itself, or as a backslash with something after it. -/
theorem escapeChar_cases (c : Char) :
    (∃ d, escapeChar c = ['\\', d] ∧ plainEscape? d = some c) ∨
      (c.toNat < 0x20 ∧ escapeChar c =
        ['\\', 'u', '0', '0', hexDigit (c.toNat / 16), hexDigit (c.toNat % 16)]) ∨
      (0x20 ≤ c.toNat ∧ c ≠ '"' ∧ c ≠ '\\' ∧ escapeChar c = [c]) := by
  unfold escapeChar
  split
  · rename_i h
    exact .inl ⟨'"', rfl, by rw [h]; rfl⟩
  split
  · rename_i h
    exact .inl ⟨'\\', rfl, by rw [h]; rfl⟩
  split
  · rename_i h
    exact .inl ⟨'n', rfl, by rw [h]; rfl⟩
  split
  · rename_i h
    exact .inl ⟨'r', rfl, by rw [h]; rfl⟩
  split
  · rename_i h
    exact .inl ⟨'t', rfl, by rw [h]; rfl⟩
  split
  · rename_i h
    exact .inl ⟨'b', rfl, by rw [h]; rfl⟩
  split
  · rename_i h
    exact .inl ⟨'f', rfl, by rw [h]; rfl⟩
  split
  · rename_i h
    exact .inr (.inl ⟨h, rfl⟩)
  · rename_i quote backslash _ _ _ _ _ control
    exact .inr (.inr ⟨by omega, quote, backslash, rfl⟩)

/-- What is written for a character is one of its spellings. -/
theorem spellsChar_escapeChar (c : Char) : SpellsChar (escapeChar c) c := by
  rcases escapeChar_cases c with ⟨d, text, plain⟩ | ⟨control, text⟩ |
    ⟨visible, quote, backslash, text⟩
  · rw [text]
    exact .letter plain
  · have unit : SpellsChar _ (Char.ofNat c.toNat) :=
      .unit (hexQuad_hexDigit control []) (by omega)
    rw [Char.ofNat_toNat] at unit
    rw [text]
    exact unit
  · rw [text]
    exact .plain visible quote backslash

/-- A written character is read as the character. -/
theorem textChar_escapeChar (c : Char) (rest : List Char) :
    textChar (escapeChar c ++ rest) = .ok (some c, rest) :=
  (spellsChar_escapeChar c).textChar rest

/-! ## Texts -/

/-- A text after its opening quote, and the characters that it stands for. -/
inductive Spells : List Char → List Char → Prop
  | close : Spells ['"'] []
  | cons {text c tail chars} (one : SpellsChar text c) (more : Spells tail chars) :
      Spells (text ++ tail) (c :: chars)

namespace Spells

variable {tail chars : List Char}

/-- There are more characters than are spelled by them, for the quote. -/
theorem length_lt (h : Spells tail chars) : chars.length < tail.length := by
  induction h with
  | close => decide
  | cons one _ ih =>
    have := List.length_pos_iff.2 one.ne_nil
    rw [List.length_cons, List.length_append]
    omega

/-- **A spelling is read** as the characters that it stands for. -/
theorem textChars (h : Spells tail chars) (rest : List Char) {fuel : ℕ}
    (enough : chars.length < fuel) : Json.textChars fuel (tail ++ rest) = .ok (chars, rest) := by
  induction h generalizing fuel with
  | close =>
    obtain ⟨fuel, rfl⟩ := Nat.exists_eq_add_of_lt enough
    rw [List.singleton_append, Json.textChars, textChar]
  | cons one _ ih =>
    obtain ⟨fuel, rfl⟩ := Nat.exists_eq_add_of_lt enough
    rw [List.append_assoc, Json.textChars, one.textChar]
    dsimp only
    rw [ih (by rw [List.length_cons]; omega)]

/-- **A spelled text is read as what it stands for.** -/
theorem textBody {s : String} (h : Spells tail s.toList) (rest : List Char) :
    Json.textBody (tail ++ rest) = .ok (s, rest) := by
  have enough := h.length_lt
  rw [Json.textBody, h.textChars rest (by rw [List.length_append]; omega)]
  dsimp only
  rw [String.ofList_toList]

end Spells

/-- A text as it is written, after its opening quote. -/
def quoted (cs : List Char) : List Char := cs.flatMap escapeChar ++ ['"']

/-- A text is quoted character by character. -/
@[simp] theorem quoted_cons (c : Char) (cs : List Char) :
    quoted (c :: cs) = escapeChar c ++ quoted cs := by
  rw [quoted, quoted, List.flatMap_cons, List.append_assoc]

/-- A text is written in quotes. -/
theorem renderText_eq (s : String) : renderText s = '"' :: quoted s.toList := rfl

/-- What is written is one of the spellings. -/
theorem spells_quoted (cs : List Char) : Spells (quoted cs) cs := by
  induction cs with
  | nil => exact .close
  | cons c cs ih =>
    rw [quoted_cons]
    exact .cons (spellsChar_escapeChar c) ih

/-- A written text is read as the text, and what follows it is left. -/
theorem textBody_quoted (s : String) (rest : List Char) :
    textBody (quoted s.toList ++ rest) = .ok (s, rest) :=
  (spells_quoted s.toList).textBody rest

end Json
end Casework
