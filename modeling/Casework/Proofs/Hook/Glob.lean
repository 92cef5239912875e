/-
# What a condition accepts

A glob says what names it matches one character after the other (`Glob.Matches`):

| in the glob | in the name |
| --- | --- |
| `*` | any run of characters but line feeds, the empty one too |
| `?` | one character but a line feed |
| any other character | one character with the same case folding |

Matching fills a table of truth values from the back of the glob to its front, a row for each
token with a value for each suffix of the name.  Each row tells of each suffix whether the rest of
the glob matches it (`Tells`): a row is made from the one behind it (`tells_extend`), and the first
value of the first row is the answer (`accepts_iff`).  Of `*` the row uses that a run is empty, or
has a first character and is a run without it (`run_cons_iff`).

The globs of a condition are what stands between its commas, without the blanks around it, where
that is anything (`Lists`).  A condition that lists none is refused, by the check and by the
evaluation alike, and any other accepts a name if and only if one of its globs matches the name
(`conditions_accept_their_language`).
-/

import Casework.Hook.Glob
import Casework.Proofs.Text.Pieces

namespace Casework

open Text

namespace Glob

/-- **The names that a glob matches.** -/
def Matches : List Char → List Char → Prop
  | [], name => name = []
  | '*' :: glob, name => ∃ run rest, name = run ++ rest ∧ '\n' ∉ run ∧ Matches glob rest
  | '?' :: glob, name => ∃ c rest, name = c :: rest ∧ c ≠ '\n' ∧ Matches glob rest
  | p :: glob, name => ∃ c rest, name = c :: rest ∧ foldCase p = foldCase c ∧ Matches glob rest

/-- The texts that a token and then one of the texts `P` make. -/
def Behind (t : GlobToken) (P : List Char → Prop) (name : List Char) : Prop :=
  match t with
  | .run => ∃ run rest, name = run ++ rest ∧ '\n' ∉ run ∧ P rest
  | .one => ∃ c rest, name = c :: rest ∧ c ≠ '\n' ∧ P rest
  | .char p => ∃ c rest, name = c :: rest ∧ foldCase p = foldCase c ∧ P rest

variable {P : List Char → Prop} {t : GlobToken} {name cs : List Char} {c p : Char}

/-- A glob matches its first token and then what the others match. -/
theorem matches_cons (p : Char) (glob : List Char) :
    Matches (p :: glob) = Behind (tokenOf p) (Matches glob) := by
  funext name
  by_cases star : p = '*'
  · subst star
    rfl
  by_cases one : p = '?'
  · subst one
    rfl
  rw [tokenOf, if_neg star, if_neg one, Matches]
  · rfl
  · exact star
  · exact one

/-- A run is empty, or has a first character and is a run without it. -/
theorem run_cons_iff :
    Behind .run P (c :: cs) ↔ P (c :: cs) ∨ c ≠ '\n' ∧ Behind .run P cs := by
  constructor
  · rintro ⟨run, rest, split, free, matched⟩
    cases run with
    | nil =>
      rw [List.nil_append] at split
      exact .inl (split ▸ matched)
    | cons d run =>
      rw [List.cons_append, List.cons.injEq] at split
      obtain ⟨rfl, rfl⟩ := split
      rw [List.mem_cons, not_or] at free
      exact .inr ⟨Ne.symm free.1, run, rest, rfl, free.2, matched⟩
  · rintro (matched | ⟨first, run, rest, rfl, free, matched⟩)
    · exact ⟨[], c :: cs, rfl, List.not_mem_nil, matched⟩
    · refine ⟨c :: run, rest, rfl, ?_, matched⟩
      rw [List.mem_cons, not_or]
      exact ⟨Ne.symm first, free⟩

/-- A token for one character takes the first. -/
theorem single_cons_iff (single : t ≠ .run) :
    Behind t P (c :: cs) ↔ tokenMatches t c = true ∧ P cs := by
  cases t with
  | run => exact absurd rfl single
  | one => simp [Behind, tokenMatches, and_assoc]
  | char p => simp [Behind, tokenMatches, sameFolded, and_assoc]

/-- Only a star can stand before the end of a name. -/
theorem behind_nil_iff : Behind t P [] ↔ t = .run ∧ P [] := by
  cases t <;> simp [Behind, and_assoc]

/-! ## The table -/

/-- The truth values tell of each suffix of the name whether it is one of the texts, the whole name
first. -/
inductive Tells (P : List Char → Prop) : List Char → List Bool → Prop where
  | nil {value : Bool} (told : value = true ↔ P []) : Tells P [] [value]
  | cons {c : Char} {cs : List Char} {value : Bool} {row : List Bool}
      (told : value = true ↔ P (c :: cs)) (rest : Tells P cs row) : Tells P (c :: cs) (value :: row)

/-- The first value tells of the whole name. -/
theorem Tells.head {row : List Bool} (h : Tells P name row) : row.headD false = true ↔ P name := by
  cases h with
  | nil told => exact told
  | cons told rest => exact told

/-- **One token further to the front.** -/
theorem tells_extend (t : GlobToken) {row : List Bool} (h : Tells P name row) :
    Tells (Behind t P) name (extend t name row) := by
  induction h with
  | nil told =>
    cases t with
    | run => exact .nil (by rw [told, behind_nil_iff, eq_self, true_and])
    | one => exact .nil (by simp [behind_nil_iff])
    | char p => exact .nil (by simp [behind_nil_iff])
  | @cons c cs value row told rest ih =>
    cases t with
    | run =>
      refine .cons ?_ ih
      rw [run_cons_iff, Bool.or_eq_true, Bool.and_eq_true, told, ih.head]
      simp [tokenMatches]
    | one =>
      refine .cons ?_ ih
      rw [single_cons_iff (t := .one) nofun, Bool.and_eq_true, rest.head]
    | char p =>
      refine .cons ?_ ih
      rw [single_cons_iff (t := .char p) nofun, Bool.and_eq_true, rest.head]

/-- Behind the last token the empty suffix alone is matched. -/
theorem tells_end (name : List Char) :
    Tells (· = []) name (List.replicate name.length false ++ [true]) := by
  induction name with
  | nil => exact .nil (by simp)
  | cons c cs ih => exact .cons (by simp) ih

/-- **The table tells** of every suffix of the name whether the glob matches it. -/
theorem tells_table (glob name : List Char) :
    Tells (Matches glob) name (table name (glob.map tokenOf)) := by
  induction glob with
  | nil => exact tells_end name
  | cons p glob ih =>
    rw [matches_cons]
    exact tells_extend (tokenOf p) ih

/-- **Globs match their names.** -/
theorem accepts_iff (glob name : String) :
    (ofPattern glob).accepts name = true ↔ Matches glob.toList name.toList :=
  (tells_table glob.toList name.toList).head

instance (glob name : String) : Decidable (Matches glob.toList name.toList) :=
  decidable_of_iff _ (accepts_iff glob name)

example : Matches "*.e?1".toList "disk.1.E01".toList ∧
    ¬Matches "*.e?1".toList "disk.e01x".toList := by
  decide

end Glob

/-! ## Conditions -/

/-- The glob is listed by the condition: it stands between two commas, one of which may be an end of
the condition, with blanks around it and none at its own ends. -/
def Lists (condition glob : List Char) : Prop :=
  ∃ front before after back,
    ',' :: (condition ++ [',']) = front ++ ',' :: (before ++ glob ++ after ++ ',' :: back) ∧
    ',' ∉ glob ∧ glob ≠ [] ∧ (∀ c ∈ before ++ after, isBlank c = true) ∧
    (∀ c ∈ glob.head?, isBlank c = false) ∧ ∀ c ∈ glob.getLast?, isBlank c = false

/-- The globs of a condition are its pieces between commas, trimmed, if anything is left. -/
theorem mem_commaPieces_iff_splitChars {condition glob : String} : glob ∈ commaPieces condition ↔
    ∃ piece ∈ splitChars ',' condition.toList,
      trimChars piece = glob.toList ∧ glob.toList ≠ [] := by
  rw [commaPieces, List.filterMap_map, List.mem_filterMap]
  refine exists_congr fun piece => and_congr_right fun _ => ?_
  rw [Function.comp_apply, Option.ite_none_left_eq_some, Option.some_inj, ← String.toList_inj,
    String.toList_ofList, List.isEmpty_iff, and_comm]
  exact and_congr_right fun trimmed => by rw [trimmed]

/-- **The globs of a condition** are those that it lists. -/
theorem mem_commaPieces_iff {condition glob : String} :
    glob ∈ commaPieces condition ↔ Lists condition.toList glob.toList := by
  rw [mem_commaPieces_iff_splitChars]
  constructor
  · rintro ⟨piece, member, trimmed, some_char⟩
    obtain ⟨free, front, back, split⟩ := mem_splitChars_iff.1 member
    obtain ⟨before, after, rfl, blank, ends⟩ := trimChars_eq_iff_exists.1 trimmed
    refine ⟨front, before, after, back, split, fun comma => free ?_, some_char, blank, ends⟩
    exact List.mem_append_left after (List.mem_append_right before comma)
  · rintro ⟨front, before, after, back, split, free, some_char, blank, ends⟩
    refine ⟨before ++ glob.toList ++ after, mem_splitChars_iff.2 ⟨?_, front, back, split⟩,
      trimChars_eq_iff_exists.2 ⟨before, after, rfl, blank, ends⟩, some_char⟩
    intro comma
    rw [List.append_assoc, List.mem_append, List.mem_append, or_left_comm] at comma
    have blank_comma : isBlank ',' = true :=
      blank ',' (List.mem_append.2 (comma.resolve_left free))
    exact absurd blank_comma (by decide)

/-- A condition lists a glob if it has a piece. -/
theorem exists_lists_iff {condition : String} :
    (∃ glob, Lists condition.toList glob) ↔ commaPieces condition ≠ [] := by
  constructor
  · rintro ⟨glob, listed⟩
    rw [← String.toList_ofList (l := glob)] at listed
    exact List.ne_nil_of_mem (mem_commaPieces_iff.2 listed)
  · intro some_piece
    obtain ⟨glob, member⟩ := List.exists_mem_of_ne_nil _ some_piece
    exact ⟨glob.toList, mem_commaPieces_iff.1 member⟩

/-- Without globs a condition is refused, and otherwise it has them. -/
theorem conditionGlobs_cases (condition : String) :
    (commaPieces condition = [] ∧
      conditionGlobs condition = .error (.validation "hook condition is empty")) ∨
    (commaPieces condition ≠ [] ∧
      conditionGlobs condition = .ok ((commaPieces condition).map Glob.ofPattern)) := by
  rw [conditionGlobs]
  cases pieces : commaPieces condition with
  | nil => exact .inl ⟨rfl, rfl⟩
  | cons glob globs => exact .inr ⟨List.cons_ne_nil glob globs, rfl⟩

/-- **An item is accepted** if its name is matched by a glob that the condition lists. -/
theorem any_accepts_iff {condition name : String} :
    (((commaPieces condition).map Glob.ofPattern).any fun g => g.accepts name) = true ↔
      ∃ glob, Lists condition.toList glob ∧ Glob.Matches glob name.toList := by
  rw [List.any_map, List.any_eq_true]
  constructor
  · rintro ⟨glob, member, accepted⟩
    exact ⟨glob.toList, mem_commaPieces_iff.1 member, (Glob.accepts_iff glob name).1 accepted⟩
  · rintro ⟨glob, listed, matched⟩
    refine ⟨String.ofList glob, mem_commaPieces_iff.2 ?_, (Glob.accepts_iff _ name).2 ?_⟩
    · rwa [String.toList_ofList]
    · rwa [String.toList_ofList]

/-- **Conditions accept what their globs match.**  A condition that lists no glob is refused, by the
check and by the evaluation, and every other is evaluated to whether a glob that it lists matches
the name. -/
theorem conditions_accept_their_language (condition : String) (e : Evidence) :
    ((∃ glob, Lists condition.toList glob) ↔ namePatternRules.validate condition = .ok ()) ∧
    ((¬∃ glob, Lists condition.toList glob) ↔ namePatternRules.validate condition =
      .error (.validation "hook condition is empty")) ∧
    ((¬∃ glob, Lists condition.toList glob) ↔ namePatternRules.evaluate condition e =
      .error (.validation "hook condition is empty")) ∧
    ((∃ glob, Lists condition.toList glob ∧ Glob.Matches glob e.name.toList) ↔
      namePatternRules.evaluate condition e = .ok true) ∧
    (((∃ glob, Lists condition.toList glob) ∧
        ∀ glob, Lists condition.toList glob → ¬Glob.Matches glob e.name.toList) ↔
      namePatternRules.evaluate condition e = .ok false) := by
  rw [exists_lists_iff, ← any_accepts_iff]
  have rejected : (∀ glob, Lists condition.toList glob → ¬Glob.Matches glob e.name.toList) ↔
      (((commaPieces condition).map Glob.ofPattern).any fun g => g.accepts e.name) = false := by
    rw [← Bool.not_eq_true, any_accepts_iff, not_exists]
    exact forall_congr' fun glob => not_and.symm
  rw [rejected]
  obtain ⟨blank, refused⟩ | ⟨listed, globs⟩ := conditionGlobs_cases condition
  · simp [namePatternRules, refused, blank, Except.map]
  · simp [namePatternRules, globs, listed, Except.map]

end Casework
