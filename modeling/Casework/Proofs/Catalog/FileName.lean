/-
# Names of files

A name is a single component of a path, whatever directory it stands in, if and only if it is
plain: not empty, without a slash, and neither `.` nor `..` (`isPlainFileName_iff`).  A plain name
is the only component of itself, and the last one of a path that ends in it
(`pathComponents_append`).
-/

import Casework.Catalog.FileName
import Casework.Proofs.Text.Pieces

namespace Casework

open Text

variable {name : String} {cs ds : List Char}

/-- A path is split at each of its slashes. -/
theorem pathComponents_append (cs ds : List Char) :
    pathComponents (cs ++ '/' :: ds) = pathComponents cs ++ pathComponents ds := by
  rw [pathComponents, splitChars_append, List.filter_append]
  rfl

/-- A name that is not the current directory is one component. -/
theorem pathComponents_of_plain (free : '/' ∉ cs) (some_char : cs ≠ []) (not_dot : cs ≠ ['.']) :
    pathComponents cs = [cs] := by
  rw [pathComponents, splitChars_of_not_mem free]
  simp [some_char, not_dot]

/-- **A name is a single ordinary component** if and only if it is not empty, has no slash, and is
neither `.` nor `..`. -/
theorem isPlainFileName_iff : isPlainFileName name = true ↔
    name ≠ "" ∧ '/' ∉ name.toList ∧ name ≠ "." ∧ name ≠ ".." := by
  have same (s : String) : name = s ↔ name.toList = s.toList := String.toList_inj.symm
  simp only [isPlainFileName, Bool.and_eq_true, bne_iff_ne, beq_iff_eq]
  constructor
  · rintro ⟨some_char, found⟩
    unfold fileName? at found
    split at found
    · next part last =>
      split at found
      · cases found
      · next not_up =>
        obtain rfl := Option.some.inj found
        obtain ⟨piece, counts⟩ := List.mem_filter.1 (List.mem_of_getLast? last)
        simp only [Bool.and_eq_true, Bool.not_eq_true', bne_iff_ne] at counts
        exact ⟨some_char, sep_not_mem_splitChars piece, fun dot => counts.2 ((same _).1 dot),
          fun up => not_up ((same _).1 up)⟩
    · cases found
  · rintro ⟨some_char, free, not_dot, not_up⟩
    refine ⟨some_char, ?_⟩
    have only : pathComponents name.toList = [name.toList] :=
      pathComponents_of_plain free (fun empty => some_char ((same "").2 empty))
        fun dot => not_dot ((same ".").2 dot)
    rw [fileName?, only]
    simpa using fun up => not_up ((same "..").2 up)

/-- A single ordinary component of a path. -/
def IsComponent (name : String) : Prop :=
  name ≠ "" ∧ '/' ∉ name.toList ∧ name ≠ "." ∧ name ≠ ".."

/-- The check of file names decides what a component is. -/
theorem isPlainFileName_iff_isComponent : isPlainFileName name = true ↔ IsComponent name :=
  isPlainFileName_iff

/-- A name that passes the check is one component. -/
theorem pathComponents_of_isPlainFileName (plain : isPlainFileName name = true) :
    pathComponents name.toList = [name.toList] := by
  obtain ⟨some_char, free, not_dot, -⟩ := isPlainFileName_iff.1 plain
  exact pathComponents_of_plain free (fun empty => some_char (String.toList_inj.1 empty))
    fun dot => not_dot (String.toList_inj.1 dot)

/-- A plain name is still one with a suffix behind it. -/
theorem isPlainFileName_append {suffix : String} (plain : isPlainFileName name = true)
    (free : '/' ∉ suffix.toList) : isPlainFileName (name ++ suffix) = true := by
  obtain ⟨some_char, name_free, not_dot, not_up⟩ := isPlainFileName_iff.1 plain
  rw [isPlainFileName_iff]
  simp only [ne_eq, ← String.toList_inj, String.toList_append, List.mem_append] at *
  refine ⟨by simp_all, by simp_all, ?_, ?_⟩
  · rcases shape : name.toList with _ | ⟨c, cs⟩ <;> simp_all
  · rcases shape : name.toList with _ | ⟨c, _ | ⟨d, cs⟩⟩ <;> simp_all

/-- A name that passes the check is its own file name. -/
theorem fileName?_of_isPlainFileName (plain : isPlainFileName name = true) :
    fileName? name.toList = some name.toList := by
  rw [isPlainFileName, Bool.and_eq_true, beq_iff_eq] at plain
  exact plain.2

/-- The extension is what stands behind the last point, if something stands in front of it. -/
theorem extensionOf_append (some_char : cs ≠ []) (free : '.' ∉ ds) :
    extensionOf (cs ++ '.' :: ds) = some ds := by
  have after : ((cs ++ '.' :: ds).reverse.takeWhile (· ≠ '.')).reverse = ds := by
    have back : (cs ++ '.' :: ds).reverse = ds.reverse ++ '.' :: cs.reverse := by simp
    rw [back, List.takeWhile_append_of_pos]
    · simp
    · intro c among
      simpa using fun point : c = '.' => free (point ▸ List.mem_reverse.1 among)
  have front : ¬(cs ++ '.' :: ds).length - ds.length ≤ 1 := by
    have := List.length_pos_iff.2 some_char
    simp only [List.length_append, List.length_cons]
    omega
  rw [extensionOf, after, if_neg front]

/-- **What a plain name ends in** behind a point is its extension. -/
theorem Evidence.extension?_eq {e : Evidence} (plain : isPlainFileName e.name = true)
    (shape : e.name.toList = cs ++ '.' :: ds) (some_char : cs ≠ []) (free : '.' ∉ ds) :
    e.extension? = some (String.ofList (ds.map Char.toLower)) := by
  rw [Evidence.extension?, fileName?_of_isPlainFileName plain, shape]
  simp [extensionOf_append some_char free]

end Casework
