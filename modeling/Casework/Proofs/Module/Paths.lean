/-
# Where a module's files are

The file of an item stands in the directory of its case, under its own name, and both are single
components (`evidencePath_eq_ok_iff`).  What a suffix is added to stays in that directory
(`joinPath_append`), and a path that leads anywhere leads there: its place ends in the case and the
name (`exists_place_joinPath`).  So two such paths below one directory that lead to the same place
are of the same case and the same name (`names_eq_of_place_eq`).
-/

import Casework.Module.Tool
import Casework.Proofs.Catalog.FileName
import Casework.Proofs.Host.FileTree

namespace Casework
namespace ToolModule

open Text

variable {m : ToolModule} {e : Evidence} {path directory name : String}

/-- What follows a path follows its last name. -/
theorem joinPath_append (directory name suffix : String) :
    joinPath directory name ++ suffix = joinPath directory (name ++ suffix) := by
  unfold joinPath
  split
  · rfl
  · split <;> simp only [String.append_assoc]

/-- A path below another one goes on from it. -/
theorem exists_joinPath_eq (directory name : String) :
    ∃ rest, joinPath directory name = directory ++ rest := by
  unfold joinPath
  split
  · next empty => exact ⟨name, by rw [empty, String.empty_append]⟩
  · split
    · exact ⟨name, rfl⟩
    · exact ⟨"/" ++ name, by rw [String.append_assoc]⟩

/-- A path with a name is not empty. -/
theorem joinPath_ne_empty (some_name : name ≠ "") (directory : String) :
    joinPath directory name ≠ "" := by
  unfold joinPath
  split
  · exact some_name
  · split <;> simp [some_name]

/-- A path below another one that is not empty has a slash. -/
theorem slash_mem_joinPath (some_directory : directory ≠ "") (name : String) :
    '/' ∈ (joinPath directory name).toList := by
  unfold joinPath
  rw [if_neg some_directory]
  split
  · next slash => simp [List.mem_of_getLast? slash]
  · simp

/-- The components of a path below another one are those of both. -/
theorem pathComponents_joinPath (directory name : String) :
    pathComponents (joinPath directory name).toList =
      pathComponents directory.toList ++ pathComponents name.toList := by
  unfold joinPath
  split
  · next empty =>
    subst empty
    rfl
  · split
    · next slash =>
      obtain ⟨cs, ends⟩ := List.getLast?_eq_some_iff.1 slash
      have own : pathComponents directory.toList = pathComponents cs := by
        rw [ends, pathComponents_append]
        exact List.append_nil _
      rw [own, String.toList_append, ends, List.append_assoc, List.singleton_append,
        pathComponents_append]
    · rw [String.toList_append, String.toList_append, List.append_assoc]
      exact pathComponents_append directory.toList name.toList

/-- An item has a path if and only if its case and its name are plain names of files. -/
theorem evidencePath_eq_ok_iff : m.evidencePath e = .ok path ↔
    isPlainFileName e.caseId = true ∧ isPlainFileName e.name = true ∧
      path = joinPath (joinPath m.directory e.caseId) e.name := by
  unfold evidencePath
  by_cases plain_case : isPlainFileName e.caseId <;>
    by_cases plain_name : isPlainFileName e.name <;>
      simp [plain_case, plain_name, eq_comm]

/-- An item has a path if and only if its case and its name are single components. -/
theorem exists_evidencePath_iff : (∃ path, m.evidencePath e = .ok path) ↔
    IsComponent e.caseId ∧ IsComponent e.name := by
  simp only [evidencePath_eq_ok_iff, isPlainFileName_iff_isComponent]
  exact ⟨fun ⟨_, plain_case, plain_name, _⟩ => ⟨plain_case, plain_name⟩,
    fun ⟨plain_case, plain_name⟩ => ⟨_, plain_case, plain_name, rfl⟩⟩

/-- The path of an item has a slash. -/
theorem slash_mem_of_accepted (accepted : m.evidencePath e = .ok path) : '/' ∈ path.toList := by
  obtain ⟨plain_case, -, rfl⟩ := evidencePath_eq_ok_iff.1 accepted
  exact slash_mem_joinPath (joinPath_ne_empty (isPlainFileName_iff.1 plain_case).1 _) _

/-- **An item of the same case with a longer name** has the path that is longer by as much. -/
theorem evidencePath_append {a : Evidence} {input suffix : String}
    (accepted : m.evidencePath e = .ok input) (free : '/' ∉ suffix.toList)
    (case : a.caseId = e.caseId) (named : a.name = e.name ++ suffix) :
    m.evidencePath a = .ok (input ++ suffix) := by
  obtain ⟨plain_case, plain_name, rfl⟩ := evidencePath_eq_ok_iff.1 accepted
  rw [evidencePath_eq_ok_iff, case, named, joinPath_append]
  exact ⟨plain_case, isPlainFileName_append plain_name free, rfl⟩

/-- Built-in modules are all for the same directory. -/
theorem directory_of_builtin {tools : ToolsConfig} (known : m ∈ builtin tools directory) :
    m.directory = directory := by
  simp only [builtin, List.mem_cons, List.not_mem_nil, or_false] at known
  rcases known with rfl | rfl | rfl | rfl | rfl | rfl <;> rfl

/-- The kinds of the built-in modules do not depend on the configuration. -/
theorem kind_mem_of_builtin {tools : ToolsConfig} (known : m ∈ builtin tools directory) :
    m.kind ∈ (builtin {} "").map ToolModule.kind := by
  have same : (builtin tools directory).map ToolModule.kind =
      (builtin {} "").map ToolModule.kind := rfl
  exact same ▸ List.mem_map_of_mem known

/-- A suffix of a built-in module does not lead out of a directory. -/
theorem slash_not_mem_suffix {tools : ToolsConfig} {suffix : String}
    (known : m ∈ builtin tools directory) (writes : suffix ∈ outputSuffixes m.kind) :
    '/' ∉ suffix.toList := by
  have free : ∀ kind ∈ (builtin {} "").map ToolModule.kind, ∀ suffix ∈ outputSuffixes kind,
      '/' ∉ suffix.toList := by decide
  exact free m.kind (kind_mem_of_builtin known) suffix writes

/-- The place of a file in a directory of a directory ends in the names of both. -/
theorem exists_place_joinPath {t : FileTree} {p : Place} {inner : String}
    (plain_inner : isPlainFileName inner = true) (plain : isPlainFileName name = true)
    (led : t.place (joinPath (joinPath directory inner) name) = .ok p) :
    ∃ q, p = q ++ [inner, name] := by
  have components : (pathComponents (joinPath (joinPath directory inner) name).toList).map
      String.ofList = (pathComponents directory.toList).map String.ofList ++ [inner, name] := by
    rw [pathComponents_joinPath, pathComponents_joinPath,
      pathComponents_of_isPlainFileName plain_inner, pathComponents_of_isPlainFileName plain]
    simp
  have down : ∀ n ∈ [inner, name], n ≠ ".." := by
    simp only [List.forall_mem_cons, List.not_mem_nil, false_imp_iff, implies_true, and_true]
    exact ⟨(isPlainFileName_iff.1 plain_inner).2.2.2, (isPlainFileName_iff.1 plain).2.2.2⟩
  unfold FileTree.place at led
  dsimp only at led
  split at led
  · cases led
  · split at led
    · cases led
    · rw [components] at led
      obtain ⟨q, -, ends⟩ := FileTree.walk_append_down down (List.cons_ne_nil _ _) led
      exact ⟨q, ends⟩

/-- **A path below a directory leads to the entry of its name** in the place of that directory. -/
theorem place_joinPath {t : FileTree} {p : Place} (plain : isPlainFileName name = true)
    (some_directory : directory ≠ "") (led : t.place (joinPath directory name) = .ok p) :
    ∃ q, t.place directory = .ok q ∧ p = q ++ [name] := by
  obtain ⟨rest, goes_on⟩ := exists_joinPath_eq directory name
  have some_char : directory.toList ≠ [] := by simpa using some_directory
  have components : (pathComponents (joinPath directory name).toList).map String.ofList =
      (pathComponents directory.toList).map String.ofList ++ [name] := by
    rw [pathComponents_joinPath, pathComponents_of_isPlainFileName plain]
    simp
  have down : ∀ n ∈ [name], n ≠ ".." := by simpa using (isPlainFileName_iff.1 plain).2.2.2
  have same_head : (joinPath directory name).toList.head? = directory.toList.head? := by
    obtain ⟨c, cs, shape⟩ := List.exists_cons_of_ne_nil some_char
    rw [goes_on, String.toList_append, shape]
    rfl
  unfold FileTree.place at led ⊢
  dsimp only at led ⊢
  rw [components, same_head] at led
  split at led
  · cases led
  · split at led
    · cases led
    · next short =>
      have shorter : ¬FileTree.maxPathBytes < directory.utf8ByteSize := by
        rw [goes_on, String.utf8ByteSize_append] at short
        omega
      rw [if_neg (by simpa using some_char), if_neg shorter]
      exact FileTree.walk_append_down down (List.cons_ne_nil _ _) led

/-- **Paths of files are told apart by their places.** -/
theorem names_eq_of_place_eq {t : FileTree} {p : Place} {inner inner' name' : String}
    (plain_inner : isPlainFileName inner = true) (plain : isPlainFileName name = true)
    (plain_inner' : isPlainFileName inner' = true) (plain' : isPlainFileName name' = true)
    (led : t.place (joinPath (joinPath directory inner) name) = .ok p)
    (led' : t.place (joinPath (joinPath directory inner') name') = .ok p) :
    inner = inner' ∧ name = name' := by
  obtain ⟨q, ends⟩ := exists_place_joinPath plain_inner plain led
  obtain ⟨q', ends'⟩ := exists_place_joinPath plain_inner' plain' led'
  have last := (List.append_inj' (ends.symm.trans ends') rfl).2
  simpa using last

end ToolModule
end Casework
