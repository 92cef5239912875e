/-
# Objects with their members in any order

An object is read by the names of its members: those of its fields may come in any order and
with members of other names between them, their names may be spelled with escapes (`Spells`),
and blanks may stand wherever JSON has them (`Laid`). A record whose codecs take the texts of its
own members (`Codec.Takes`) takes every such arrangement of them (`Codec.takes_record`).

| what the fields make of a member | its slot |
| --- | --- |
| no field has the name | the value is skipped, whatever it is |
| a field has the name | `waiting` until then, afterwards the value |

Reading goes from the slots that are all empty to those of the record. In between, exactly the
slots of the members that are still to come are empty.
-/

import Mathlib.Data.List.Perm.Basic
import Casework.Proofs.Json.Codec
import Casework.Proofs.Json.Skipping

namespace Casework
namespace Json

open Text

/-! ## Members -/

/-- The name of a member and the text of its value. -/
abbrev Member := String × List Char

/-- What stands before the quote of a member: nothing for the first one, and otherwise the comma. -/
inductive Gap : Bool → List Char → Prop
  | first : Gap true []
  | comma {bs} (blanks : Blanks bs) : Gap false (',' :: bs)

/-- **The text of the members of an object**, behind the opening brace (`first`) or behind a
member, up to the closing brace: commas between them, and blanks wherever they may stand. -/
inductive Laid : Bool → List Member → List Char → Prop
  | close {first ws} (blanks : Blanks ws) : Laid first [] (ws ++ ['\x7d'])
  | member {first ws gap name key before after value ms text} (blanks : Blanks ws)
      (comma : Gap first gap) (named : Spells key name.toList) (front : Blanks before)
      (back : Blanks after) (more : Laid false ms text) :
      Laid first ((name, value) :: ms)
        (ws ++ (gap ++ '"' :: (key ++ (before ++ ':' :: (after ++ (value ++ text))))))

/-- What the fields make of a member: one that no field names is skipped, one that a field names
fills its slot. -/
def Placed (fields : List Field) (now : Timestamp) (slots : Slots) (m : Member) : Prop :=
  match findField m.1 fields 0 with
  | none => Spelt .value m.2
  | some (i, f) => ∃ d, slots[i]? = some (some d) ∧ f.codec.Takes now d m.2

/-- The slots before the members are read: those of their names are still empty. -/
def waiting (fields : List Field) (names : List String) (slots : Slots) : Slots :=
  fields.zipWith (fun f slot => if f.name ∈ names then none else slot) slots

/-- What follows a member does not belong to its value. -/
theorem Laid.parted {ms : List Member} {text : List Char} (h : Laid false ms text)
    (rest : List Char) : Parted (text ++ rest) := by
  cases h with
  | close blanks =>
    rw [List.append_assoc]
    exact Parted.blanks blanks (.cons (by decide) _)
  | member blanks comma =>
    cases comma
    rw [List.append_assoc]
    exact Parted.blanks blanks (.cons (by decide) _)

/-- There are more characters than members. -/
theorem Laid.length_lt {first : Bool} {ms : List Member} {text : List Char}
    (h : Laid first ms text) : ms.length < text.length := by
  induction h with
  | close => simp
  | member _ _ _ _ _ _ ih =>
    simp only [List.length_append, List.length_cons]
    omega

/-- Blanks before a part make no difference. -/
theorem Spelt.blanks {part : Part} {ws cs : List Char} (blanks : Blanks ws) (h : Spelt part cs) :
    Spelt part (ws ++ cs) := by
  induction ws with
  | nil => exact h
  | cons c ws ih =>
    exact .blank (blanks c (List.mem_cons_self ..)) (ih fun b hb => blanks b (.tail _ hb))

/-! ### Fields by name -/

/-- A field that is found has the name, and is where it was found. -/
theorem findField_eq_some {name : String} {fields : List Field} {start i : ℕ} {f : Field}
    (h : findField name fields start = some (i, f)) :
    ∃ j, i = start + j ∧ fields[j]? = some f ∧ f.name = name := by
  induction fields generalizing start with
  | nil => cases h
  | cons g fields ih =>
    rw [findField] at h
    split at h
    · rename_i same
      obtain ⟨rfl, rfl⟩ := Prod.mk.inj (Option.some.inj h)
      exact ⟨0, rfl, rfl, same⟩
    · obtain ⟨j, rfl, found, named⟩ := ih h
      exact ⟨j + 1, by omega, found, named⟩

/-- A field is not found if no field has the name. -/
theorem findField_eq_none_iff {name : String} {fields : List Field} {start : ℕ} :
    findField name fields start = none ↔ name ∉ fields.map Field.name := by
  induction fields generalizing start with
  | nil => simp [findField]
  | cons g fields ih =>
    rw [findField, List.map_cons, List.mem_cons, not_or]
    split
    · simp_all
    · rename_i other
      rw [ih]
      exact ⟨fun h => ⟨Ne.symm other, h⟩, And.right⟩

/-- Fields of one name are one field. -/
theorem eq_of_name {fields : List Field} (distinct : (fields.map Field.name).Nodup) {i j : ℕ}
    {f g : Field} (hf : fields[i]? = some f) (hg : fields[j]? = some g) (same : f.name = g.name) :
    i = j := by
  have inside : i < (fields.map Field.name).length := by
    rw [List.length_map]
    exact (List.getElem?_eq_some_iff.1 hf).1
  refine (List.getElem?_inj inside distinct).1 ?_
  rw [List.getElem?_map, List.getElem?_map, hf, hg, Option.map_some, Option.map_some, same]

/-! ### Slots that wait -/

section waiting

variable {fields : List Field} {names : List String} {slots : Slots} {i : ℕ} {f : Field}
  {d : Datum}

/-- A slot waits if its field is among the names that are still to come. -/
theorem getElem?_waiting (found : fields[i]? = some f) :
    (waiting fields names slots)[i]? =
      slots[i]?.map fun slot => if f.name ∈ names then none else slot := by
  rw [waiting, List.getElem?_zipWith, found]
  cases slots[i]? <;> rfl

/-- There is no slot without a field. -/
theorem getElem?_waiting_none (missing : fields[i]? = none) :
    (waiting fields names slots)[i]? = none := by
  rw [waiting, List.getElem?_zipWith, missing]

/-- When no names are left, every slot has its value. -/
theorem waiting_nil (fits : slots.length = fields.length) : waiting fields [] slots = slots := by
  refine List.ext_getElem? fun i => ?_
  rcases found : fields[i]? with _ | f
  · rw [getElem?_waiting_none found]
    rw [List.getElem?_eq_none_iff] at found
    exact (List.getElem?_eq_none (by omega)).symm
  · rw [getElem?_waiting found]
    simp

/-- A name that no field has leaves the slots as they are. -/
theorem waiting_other {name : String} (other : name ∉ fields.map Field.name) :
    waiting fields (name :: names) slots = waiting fields names slots := by
  refine List.ext_getElem? fun i => ?_
  rcases found : fields[i]? with _ | f
  · rw [getElem?_waiting_none found, getElem?_waiting_none found]
  · have differs : f.name ≠ name := by
      rintro rfl
      exact other (List.mem_map_of_mem (List.mem_of_getElem? found))
    simp only [getElem?_waiting found, List.mem_cons, differs, false_or]

/-- The slot of the next name is empty. -/
theorem waiting_empty (found : fields[i]? = some f) (slot : slots[i]? = some (some d)) :
    (waiting fields (f.name :: names) slots)[i]?.join = none := by
  rw [getElem?_waiting found, slot, Option.map_some, if_pos (List.mem_cons_self ..)]
  rfl

/-- The field that is read fills its slot, and waits no longer. -/
theorem waiting_set (distinct : (fields.map Field.name).Nodup) (found : fields[i]? = some f)
    (slot : slots[i]? = some (some d)) (once : f.name ∉ names) :
    (waiting fields (f.name :: names) slots).set i (some d) = waiting fields names slots := by
  refine List.ext_getElem? fun j => ?_
  rcases eq_or_ne i j with rfl | apart
  · have there : (waiting fields (f.name :: names) slots)[i]? = _ := getElem?_waiting found
    rw [slot, Option.map_some] at there
    obtain ⟨inside, -⟩ := List.getElem?_eq_some_iff.1 there
    rw [List.getElem?_set_self inside, getElem?_waiting found, slot, Option.map_some, if_neg once]
  · rw [List.getElem?_set_ne apart]
    rcases other : fields[j]? with _ | g
    · rw [getElem?_waiting_none other, getElem?_waiting_none other]
    · have differs : g.name ≠ f.name := fun same =>
        apart (eq_of_name distinct found other same.symm)
      simp only [getElem?_waiting other, List.mem_cons, differs, false_or]

end waiting

/-! ### Reading -/

section reading

variable {fields : List Field} {now : Timestamp} {fuel : ℕ} {slots : Slots}

/-- Blanks and the comma before a member are passed over. -/
theorem readMembers_gap {first : Bool} {ws gap : List Char} (blanks : Blanks ws)
    (comma : Gap first gap) (cs : List Char) :
    readMembers fields now (fuel + 1) first slots (ws ++ (gap ++ '"' :: cs)) =
      readMembers.member fields now fuel slots cs := by
  cases comma with
  | first =>
    rw [readMembers, List.nil_append, skipSpace_front blanks rfl]
    rfl
  | @comma bs more =>
    have quote : skipSpace (bs ++ '"' :: cs) = '"' :: cs := skipSpace_front more rfl cs
    rw [readMembers, List.cons_append, skipSpace_front blanks rfl]
    simp only [Bool.false_eq_true, if_false, quote]

/-- A member that no field names is skipped. -/
theorem member_other {name : String} {key before after value rest : List Char}
    (named : Spells key name.toList) (front : Blanks before) (back : Blanks after)
    (other : findField name fields 0 = none) (spelt : Spelt .value value) (ends : Parted rest) :
    readMembers.member fields now fuel slots
        (key ++ (before ++ ':' :: (after ++ (value ++ rest)))) =
      readMembers fields now fuel false slots rest := by
  rw [readMembers.member, named.textBody]
  dsimp only
  rw [other]
  dsimp only
  rw [skipSpace_front front rfl, ← List.append_assoc]
  simp only [skipAny_spelt (spelt.blanks back) ends]

/-- A member of a field is taken by the codec of the field. -/
theorem member_taken {name : String} {key before after value rest : List Char} {i : ℕ} {f : Field}
    {d : Datum} (named : Spells key name.toList) (front : Blanks before) (back : Blanks after)
    (found : findField name fields 0 = some (i, f)) (empty : slots[i]?.join = none)
    (takes : f.codec.Takes now d value) (ends : Parted rest) :
    readMembers.member fields now fuel slots
        (key ++ (before ++ ':' :: (after ++ (value ++ rest)))) =
      readMembers fields now fuel false (slots.set i (some d)) rest := by
  rw [readMembers.member, named.textBody]
  dsimp only
  rw [found]
  dsimp only
  rw [empty, skipSpace_front front rfl]
  simp only [Option.isSome_none, Bool.false_eq_true, if_false, takes back ends]

/-- **The members of an object are read in whatever order they stand.** -/
theorem Laid.readMembers {first : Bool} {ms : List Member} {text : List Char}
    (laid : Laid first ms text) (fits : slots.length = fields.length)
    (distinct : (fields.map Field.name).Nodup) (placed : ∀ m ∈ ms, Placed fields now slots m)
    (once : ((ms.map Prod.fst).filter (· ∈ fields.map Field.name)).Nodup)
    (enough : ms.length < fuel) (rest : List Char) :
    Json.readMembers fields now fuel first (waiting fields (ms.map Prod.fst) slots) (text ++ rest) =
      .ok (slots, rest) := by
  induction laid generalizing fuel with
  | close blanks =>
    obtain ⟨fuel, rfl⟩ := Nat.exists_eq_add_of_lt enough
    rw [List.append_assoc, List.singleton_append, Json.readMembers, skipSpace_front blanks rfl,
      List.map_nil, waiting_nil fits]
    rfl
  | @member first ws gap name key before after value ms text blanks comma named front back more
      ih =>
    obtain ⟨fuel, rfl⟩ := Nat.exists_eq_add_of_lt enough
    have behind : Parted (text ++ rest) := more.parted rest
    have later : ∀ m ∈ ms, Placed fields now slots m := fun m hm => placed m (.tail _ hm)
    have this := placed _ (List.mem_cons_self ..)
    have rows : ws ++ (gap ++ '"' :: (key ++ (before ++ ':' :: (after ++ (value ++ text))))) ++
        rest = ws ++ (gap ++ '"' :: (key ++ (before ++ ':' :: (after ++ (value ++
          (text ++ rest)))))) := by simp
    rw [rows, readMembers_gap blanks comma]
    rw [List.map_cons, List.filter_cons] at once
    rw [List.map_cons]
    rw [Placed] at this
    split at this
    · rename_i other
      have unknown := findField_eq_none_iff.1 other
      rw [member_other named front back other this behind, waiting_other unknown]
      refine ih later ?_ (by rw [List.length_cons]; omega)
      simpa [unknown] using once
    · rename_i i f found
      obtain ⟨d, slot, takes⟩ := this
      obtain ⟨j, rfl, there, rfl⟩ := findField_eq_some found
      rw [Nat.zero_add] at slot
      have known : f.name ∈ fields.map Field.name :=
        List.mem_map_of_mem (List.mem_of_getElem? there)
      rw [if_pos (by simpa using known), List.nodup_cons] at once
      have gone : f.name ∉ ms.map Prod.fst := fun again =>
        once.1 (List.mem_filter.2 ⟨again, by simpa using known⟩)
      rw [member_taken named front back found (by rw [Nat.zero_add]; exact waiting_empty there slot)
        takes behind, Nat.zero_add, waiting_set distinct there slot gone]
      exact ih later once.2 (by rw [List.length_cons]; omega)

end reading

end Json
end Casework
