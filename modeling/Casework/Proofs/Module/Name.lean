/-
# Well-formed module names

A module name is well-formed if it has 1 to 64 characters out of the listed ones
(`isModuleName_iff`, and `isModuleName_iff_allowListed` with the characters written out); a list of
names passes the check if and only if each of them does
(`checkModuleNames_eq_ok_iff`).  The only blank among those characters is the plain one
(`isBlank_iff`), and a well-formed name is still well-formed without the blanks at its ends, unless
nothing is left of it (`isModuleName_trim`).
-/

import Casework.Module.Name
import Casework.Proofs.Text.Pieces

namespace Casework

open Text

variable {name : String} {names : List String} {c : Char}

/-- A module name has one to 64 characters, all of the alphabet. -/
theorem isModuleName_iff : isModuleName name = true ↔
    name ≠ "" ∧ name.toList.length ≤ 64 ∧ ∀ c ∈ name.toList, isModuleNameChar c = true := by
  have some_char : 1 ≤ name.toList.length ↔ name ≠ "" := by
    rw [Nat.one_le_iff_ne_zero, Ne, Ne, List.length_eq_zero_iff, ← String.toList_inj,
      String.toList_empty]
  simp only [isModuleName, Bool.and_eq_true, decide_eq_true_eq, some_char, List.all_eq_true,
    and_assoc]

/-- The text has 1 to 64 characters, all of them ASCII letters, digits, or out of `_ ().-`. -/
def AllowListed (name : String) : Prop :=
  1 ≤ name.toList.length ∧ name.toList.length ≤ 64 ∧
    ∀ c ∈ name.toList, ('A' ≤ c ∧ c ≤ 'Z') ∨ ('a' ≤ c ∧ c ≤ 'z') ∨ ('0' ≤ c ∧ c ≤ '9') ∨
      c ∈ ['_', ' ', '(', ')', '.', '-']

/-- **A name is well-formed** if and only if it is allow-listed. -/
theorem isModuleName_iff_allowListed : isModuleName name = true ↔ AllowListed name := by
  have listed (c : Char) : isModuleNameChar c = true ↔ ('A' ≤ c ∧ c ≤ 'Z') ∨ ('a' ≤ c ∧ c ≤ 'z') ∨
      ('0' ≤ c ∧ c ≤ '9') ∨ c ∈ ['_', ' ', '(', ')', '.', '-'] := by
    -- characters are compared as their code points are
    have alphanum : c.isAlphanum = (decide ('A' ≤ c ∧ c ≤ 'Z') ||
        (decide ('a' ≤ c) && decide (c ≤ 'z')) || (decide ('0' ≤ c) && decide (c ≤ '9'))) := rfl
    simp only [isModuleNameChar, alphanum, Bool.or_eq_true, Bool.and_eq_true, decide_eq_true_eq,
      beq_iff_eq, or_assoc, List.mem_cons, List.not_mem_nil, or_false]
  simp only [isModuleName, Bool.and_eq_true, decide_eq_true_eq, List.all_eq_true, and_assoc,
    AllowListed, listed]

/-- The check accepts the well-formed names. -/
theorem checkModuleName_eq_ok_iff : checkModuleName name = .ok () ↔ isModuleName name = true := by
  unfold checkModuleName
  split <;> simp_all

/-- Several names are accepted if each is. -/
theorem checkModuleNames_eq_ok_iff :
    checkModuleNames names = .ok () ↔ ∀ name ∈ names, isModuleName name = true := by
  induction names with
  | nil => simp [checkModuleNames]
  | cons name names ih =>
    rw [checkModuleNames, List.forall_mem_cons, ← checkModuleName_eq_ok_iff, ← ih]
    split <;> simp_all

/-- Any other name is refused, and quoted. -/
theorem checkModuleName_of_not (other : ¬isModuleName name = true) :
    checkModuleName name = .error (.validation ("invalid module name: " ++ quote name)) :=
  if_neg other

/-- **A list with another text in it** is refused for the first that it has. -/
theorem checkModuleNames_of_not (other : ¬∀ name ∈ names, isModuleName name = true) :
    ∃ front name back, names = front ++ name :: back ∧
      (∀ before ∈ front, isModuleName before = true) ∧ ¬isModuleName name = true ∧
      checkModuleNames names = .error (.validation ("invalid module name: " ++ quote name)) := by
  induction names with
  | nil => exact absurd (fun name member => absurd member List.not_mem_nil) other
  | cons name names ih =>
    rw [checkModuleNames]
    by_cases named : isModuleName name = true
    · rw [List.forall_mem_cons, not_and] at other
      obtain ⟨front, bad, back, rfl, fine, ill, refused⟩ := ih (other named)
      rw [checkModuleName_eq_ok_iff.2 named]
      exact ⟨name :: front, bad, back, rfl, List.forall_mem_cons.2 ⟨named, fine⟩, ill, refused⟩
    · rw [checkModuleName_of_not named]
      exact ⟨[], name, names, rfl, by simp, named, rfl⟩

/-- The plain blank is the only one that a name may have. -/
theorem isBlank_iff (listed : isModuleNameChar c = true) : isBlank c = true ↔ c = ' ' := by
  have codes : ∀ range ∈ blankRanges, ∀ k ≤ range.2 - range.1,
      range.1 + k = 0x20 ∨ isModuleNameChar (Char.ofNat (range.1 + k)) = false := by decide
  constructor
  · intro blank
    obtain ⟨range, among, inside⟩ := List.any_eq_true.1 blank
    simp only [Bool.and_eq_true, decide_eq_true_eq] at inside
    have code := codes range among (c.toNat - range.1) (by omega)
    rw [Nat.add_sub_cancel' inside.1, Char.ofNat_toNat, listed] at code
    rw [← Char.ofNat_toNat c, code.resolve_right nofun]
  · rintro rfl
    decide

/-- A module name has no comma. -/
theorem comma_not_mem (named : isModuleName name = true) : ',' ∉ name.toList := fun comma =>
  absurd ((isModuleName_iff.1 named).2.2 ',' comma) (by decide)

/-- What is left of a name without the blanks at its ends is a name, if anything is left. -/
theorem isModuleName_trim (named : isModuleName name = true) (some_char : trim name ≠ "") :
    isModuleName (trim name) = true := by
  obtain ⟨-, short, listed⟩ := isModuleName_iff.1 named
  have part : (trim name).toList.Sublist name.toList := by
    rw [trim, String.toList_ofList]
    exact trimChars_sublist name.toList
  exact isModuleName_iff.2
    ⟨some_char, Nat.le_trans part.length_le short, fun c member => listed c (part.subset member)⟩

end Casework
