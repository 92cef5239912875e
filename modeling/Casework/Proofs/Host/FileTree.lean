/-
# What stands where a path points

Files come and go in a tree while its directories stay.  As long as they do, a path that leads to a
place leads to it in every such tree (`SameDirectories.place`), and removing files takes away just
the files that stand there (`file_removeAll_iff`).  So what can be seen at a path after files were
removed depends on the places of the removed paths alone (`present_removeAll_iff`).
-/

import Casework.Host.FileTree

namespace Casework
namespace FileTree

variable {t t' t'' : FileTree} {path : String} {p q : Place} {e : Entry}

/-- Something stands where the path points. -/
def Present (t : FileTree) (path : String) : Prop := t.exists? path = some true

instance (t : FileTree) (path : String) : Decidable (t.Present path) :=
  inferInstanceAs (Decidable (t.exists? path = some true))

/-- The path can be followed, and nothing stands where it points. -/
def Absent (t : FileTree) (path : String) : Prop := t.exists? path = some false

instance (t : FileTree) (path : String) : Decidable (t.Absent path) :=
  inferInstanceAs (Decidable (t.exists? path = some false))

/-- Something stands where a path points if it can be looked up. -/
theorem present_iff : t.Present path ↔ ∃ e, t.lookup path = .ok e := by
  unfold Present exists?
  cases h : t.lookup path with
  | ok e => simp
  | error e => cases e <;> simp

/-- Nothing stands there if the look-up misses it. -/
theorem absent_iff : t.Absent path ↔ t.lookup path = .error .missing := by
  unfold Absent exists?
  cases h : t.lookup path with
  | ok e => simp
  | error e => cases e <;> simp

/-- The path ends in a slash, and so names directories only. -/
def endsInSlash (path : String) : Prop := path.toList.getLast? = some '/'

/-- **What a path points to** stands at its place, and is a directory if the path ends in a
slash. -/
theorem lookup_eq_ok_iff : t.lookup path = .ok e ↔
    ∃ p, t.place path = .ok p ∧ t.entryAt? p = some e ∧ (e = .directory ∨ ¬endsInSlash path) := by
  unfold lookup endsInSlash
  cases t.place path with
  | error e => simp
  | ok p =>
    cases found : t.entryAt? p with
    | none => simp [found]
    | some e' =>
      cases e' with
      | directory => simp [found]; grind
      | file content => simp [found]; grind

/-- Of a path that can be followed, what stands at its place decides. -/
theorem present_of_place (h : t.place path = .ok p) : t.Present path ↔
    ∃ e, t.entryAt? p = some e ∧ (e = .directory ∨ ¬endsInSlash path) := by
  simp [present_iff, lookup_eq_ok_iff, h]

/-- Nothing stands where the path points if its place is free. -/
theorem absent_of_place (h : t.place path = .ok p) : t.Absent path ↔ t.entryAt? p = none := by
  rw [absent_iff, lookup, h]
  cases found : t.entryAt? p with
  | none => simp [found]
  | some e =>
    cases e with
    | directory => simp [found]
    | file content => simp [found]; grind

/-- The directories are the root and those of the tree. -/
theorem entryAt?_eq_directory_iff :
    t.entryAt? p = some .directory ↔ p = [] ∨ p ∈ t.directories := by
  unfold entryAt?
  split
  · simp_all
  · simp_all

/-! ## Trees with the same directories -/

/-- The trees have the same directories, and relative paths start at the same one. -/
structure SameDirectories (t t' : FileTree) : Prop where
  home : t'.home = t.home
  directories (p : Place) : p ∈ t'.directories ↔ p ∈ t.directories

namespace SameDirectories

theorem refl (t : FileTree) : SameDirectories t t := ⟨rfl, fun _ => .rfl⟩

theorem symm (h : SameDirectories t t') : SameDirectories t' t :=
  ⟨h.home.symm, fun p => (h.directories p).symm⟩

theorem trans (h : SameDirectories t t') (h' : SameDirectories t' t'') : SameDirectories t t'' :=
  ⟨h'.home.trans h.home, fun p => (h'.directories p).trans (h.directories p)⟩

/-- Trees that share their directories have them at the same places. -/
theorem entryAt? (h : SameDirectories t t') (p : Place) :
    t'.entryAt? p = some .directory ↔ t.entryAt? p = some .directory := by
  rw [entryAt?_eq_directory_iff, entryAt?_eq_directory_iff, h.directories]

/-- Trees that share their directories are walked alike. -/
theorem walk (h : SameDirectories t t') {start : Place} {names : List String}
    (led : t.walk start names = .ok p) : t'.walk start names = .ok p := by
  fun_induction FileTree.walk t start names with
  | case1 => exact led
  | case2 => simpa [FileTree.walk] using led
  | case3 => cases led
  | case4 start name up short => simpa [FileTree.walk, up, short] using led
  | case5 start names more ih =>
    rw [FileTree.walk]
    · simpa using ih led
    · simpa using more
  | case6 => cases led
  | case7 start name names more up short inside ih =>
    rw [FileTree.walk]
    · rw [if_neg up, if_neg short, (h.entryAt? _).2 inside]
      exact ih led
    · simpa using more
  | case8 => cases led
  | case9 => cases led

/-- A path leads to the same place. -/
theorem place (h : SameDirectories t t') (led : t.place path = .ok p) : t'.place path = .ok p := by
  unfold FileTree.place at led ⊢
  dsimp only at led ⊢
  split at led
  · cases led
  · next some_char =>
    split at led
    · cases led
    · next short =>
      rw [if_neg some_char, if_neg short, h.home]
      exact h.walk led

end SameDirectories

/-! ## Places below a directory -/

/-- Names that do not lead up are appended as they are. -/
theorem walk_down {start : Place} {names : List String} (down : ∀ name ∈ names, name ≠ "..")
    (led : t.walk start names = .ok p) : p = start ++ names := by
  fun_induction FileTree.walk t start names with
  | case1 => simp_all
  | case2 => simp_all
  | case3 => cases led
  | case4 => simp_all
  | case5 start names more ih => exact absurd rfl (down ".." List.mem_cons_self)
  | case6 => cases led
  | case7 start name names more up short inside ih =>
    have rest := ih (fun n hn => down n (List.mem_cons_of_mem name hn)) led
    rw [rest, List.append_assoc, List.singleton_append]
  | case8 => cases led
  | case9 => cases led

/-- A path is followed through its first names and then through the rest. -/
theorem walk_append {start : Place} {first names : List String} (some_name : names ≠ [])
    (led : t.walk start (first ++ names) = .ok p) :
    ∃ q, t.walk start first = .ok q ∧ t.walk q names = .ok p := by
  induction first generalizing start with
  | nil => exact ⟨start, rfl, led⟩
  | cons name first ih =>
    have next (there : Place) (first_step : t.walk start (name :: first) = t.walk there first)
        (led : t.walk there (first ++ names) = .ok p) :
        ∃ q, t.walk start (name :: first) = .ok q ∧ t.walk q names = .ok p := by
      rw [first_step]
      exact ih led
    rw [List.cons_append, walk] at led
    · by_cases up : name = ".."
      · rw [if_pos up] at led
        exact next start.dropLast (by cases first <;> simp [walk, up]) led
      · by_cases long : maxNameBytes < name.utf8ByteSize
        · rw [if_neg up, if_pos long] at led
          cases led
        · rw [if_neg up, if_neg long] at led
          split at led
          next inside =>
            exact next (start ++ [name]) (by cases first <;> simp [walk, up, long, inside]) led
          next => cases led
          next => cases led
    · simp [some_name]

/-- Wherever a path goes first, it ends with the names at its end that do not lead up. -/
theorem walk_append_down {start : Place} {first names : List String}
    (down : ∀ name ∈ names, name ≠ "..") (some_name : names ≠ [])
    (led : t.walk start (first ++ names) = .ok p) :
    ∃ q, t.walk start first = .ok q ∧ p = q ++ names := by
  obtain ⟨q, first_led, rest⟩ := walk_append some_name led
  exact ⟨q, first_led, walk_down down rest⟩

/-! ## Removing files -/

/-- To erase a file leaves the directories. -/
theorem sameDirectories_eraseFile (t : FileTree) (p : Place) :
    SameDirectories t (t.eraseFile p) := ⟨rfl, fun _ => .rfl⟩

/-- To remove what a path points to leaves the directories. -/
theorem sameDirectories_remove (t : FileTree) (path : String) :
    SameDirectories t (t.remove path) := by
  unfold remove
  split
  · exact sameDirectories_eraseFile t _
  · exact .refl t

/-- To write to a path leaves the directories. -/
theorem sameDirectories_write (t : FileTree) (path content : String) :
    SameDirectories t (t.write path content) := by
  unfold write
  split
  · exact .refl t
  · split
    · exact .refl t
    · exact ⟨rfl, fun _ => .rfl⟩

/-- A file that is erased is not there. -/
theorem entryAt?_eraseFile_self (t : FileTree) (p : Place) (content : String) :
    (t.eraseFile p).entryAt? p ≠ some (.file content) := by
  have gone : (t.files.filter fun f => f.1 != p).find? (fun f => f.1 == p) = none := by
    simp [List.find?_eq_none]
  unfold entryAt? eraseFile
  dsimp only
  rw [gone]
  split <;> simp

/-- To erase a file leaves what stands elsewhere. -/
theorem entryAt?_eraseFile_of_ne (t : FileTree) (other : q ≠ p) :
    (t.eraseFile p).entryAt? q = t.entryAt? q := by
  have kept : (t.files.filter fun f => f.1 != p).find? (fun f => f.1 == q) =
      t.files.find? fun f => f.1 == q := by
    rw [List.find?_filter]
    congr 1
    funext f
    by_cases at_q : f.1 = q <;> simp [at_q, other]
  unfold entryAt? eraseFile
  dsimp only
  rw [kept]

/-- Removing a path takes away the file that stands there, and nothing else. -/
theorem file_remove_iff {content : String} : (t.remove path).entryAt? q = some (.file content) ↔
    t.entryAt? q = some (.file content) ∧ t.place path ≠ .ok q := by
  unfold remove
  cases led : t.place path with
  | error e => simp
  | ok p =>
    by_cases same : q = p
    · subst same
      simp [entryAt?_eraseFile_self]
    · have other : p ≠ q := Ne.symm same
      simp [entryAt?_eraseFile_of_ne t same, other]

/-- Where nothing stands there is nothing to remove. -/
theorem remove_of_absent (absent : t.Absent path) : t.remove path = t := by
  unfold remove
  split
  · next p led =>
    have nothing := (absent_of_place led).1 absent
    have none_there : ∀ f ∈ t.files, f.1 != p := by
      unfold entryAt? at nothing
      split at nothing
      · cases nothing
      · simpa [List.find?_eq_none] using nothing
    rw [eraseFile, List.filter_eq_self.2 none_there]
  · rfl

/-- To remove what is not there changes nothing. -/
theorem removeAll_of_absent {paths : List String} (absent : ∀ path ∈ paths, t.Absent path) :
    paths.foldl remove t = t := by
  induction paths with
  | nil => rfl
  | cons path paths ih =>
    obtain ⟨first, later⟩ := List.forall_mem_cons.1 absent
    rw [List.foldl_cons, remove_of_absent first, ih later]

/-- To remove several paths leaves the directories. -/
theorem sameDirectories_removeAll (t : FileTree) (paths : List String) :
    SameDirectories t (paths.foldl remove t) := by
  induction paths generalizing t with
  | nil => exact .refl t
  | cons path paths ih => exact (sameDirectories_remove t path).trans (ih _)

/-- **A file outlasts** the removal of paths if none of them leads to its place. -/
theorem file_removeAll_iff {content : String} {paths : List String} :
    (paths.foldl remove t).entryAt? q = some (.file content) ↔
      t.entryAt? q = some (.file content) ∧ ∀ path ∈ paths, t.place path ≠ .ok q := by
  induction paths generalizing t with
  | nil => simp
  | cons path paths ih =>
    have same := sameDirectories_remove t path
    have places (path' : String) : (t.remove path).place path' = .ok q ↔ t.place path' = .ok q :=
      ⟨same.symm.place, same.place⟩
    rw [List.foldl_cons, ih, file_remove_iff]
    simp only [ne_eq, places, List.forall_mem_cons, and_assoc]

/-- **A file is left** if and only if no removed path led to its place. -/
theorem present_removeAll_iff {content : String} {paths : List String}
    (file : t.lookup path = .ok (.file content)) : (paths.foldl remove t).Present path ↔
      ∀ removed ∈ paths, t.place removed ≠ t.place path := by
  obtain ⟨p, led, found, shape⟩ := lookup_eq_ok_iff.1 file
  have same := sameDirectories_removeAll t paths
  have no_directory : (paths.foldl remove t).entryAt? p ≠ some .directory := by
    rw [ne_eq, same.entryAt?, found]
    simp
  rw [present_of_place (same.place led), led]
  constructor
  · rintro ⟨e, there, -⟩
    cases e with
    | directory => exact absurd there no_directory
    | file content => exact (file_removeAll_iff.1 there).2
  · intro untouched
    exact ⟨_, file_removeAll_iff.2 ⟨found, untouched⟩, shape.imp_left nofun⟩

/-- What was removed and had been absent, with the same directories, is absent for good. -/
theorem not_present_removeAll {paths : List String} (same : SameDirectories t t')
    (removed : t.Absent path → path ∈ paths) (before : ¬t.Present path) :
    ¬(paths.foldl remove t').Present path := by
  intro after
  obtain ⟨e, seen⟩ := present_iff.1 after
  obtain ⟨p, led, found, shape⟩ := lookup_eq_ok_iff.1 seen
  have kept := sameDirectories_removeAll t' paths
  have led' : t'.place path = .ok p := kept.symm.place led
  have first : t.place path = .ok p := same.symm.place led'
  rw [present_of_place first] at before
  have no_directory : t.entryAt? p ≠ some .directory := fun there =>
    before ⟨_, there, .inl rfl⟩
  cases e with
  | directory =>
    exact no_directory ((same.trans kept).entryAt? p |>.1 found)
  | file content =>
    have plain : ¬endsInSlash path := shape.resolve_left nofun
    have nothing : t.entryAt? p = none := by
      cases there : t.entryAt? p with
      | none => rfl
      | some e => exact absurd ⟨e, there, .inr plain⟩ before
    exact (file_removeAll_iff.1 found).2 path (removed ((absent_of_place first).2 nothing)) led'

end FileTree
end Casework
