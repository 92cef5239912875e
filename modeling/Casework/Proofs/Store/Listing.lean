/-
# Hooks in the order of their names

Hooks are listed by insertion sort.  The list has the rows of the table (`perm_sortByName`), their
names ascend (`inOrder_sortByName`), and to list some rows of a table is to list the table and to
leave the others out (`filter_sortByName`).  Hence what becomes of the other rows does not show in
the list of these.

A row is read as the hook that it was made of, so a table of such rows is read without fail.
-/

import Mathlib.Data.List.Induction
import Mathlib.Data.String.Basic
import Casework.Store.Records

namespace Casework

/-! ## Rows that are read -/

/-- Reading the row of a hook gives the hook. -/
theorem HookRow.read_ofHook (h : Hook) : (HookRow.ofHook h).read = .ok h := by
  have trigger : HookTrigger.parse h.trigger.name = .ok h.trigger := by
    cases h.trigger
    rfl
  unfold HookRow.read HookRow.ofHook
  dsimp only
  rw [trigger]

/-- A row tells its hook. -/
theorem HookRow.ofHook_injective : Function.Injective HookRow.ofHook := by
  intro h h' same
  have read := congrArg HookRow.read same
  rw [read_ofHook, read_ofHook] at read
  exact Except.ok.inj read

/-- Rows that can all be read are read. -/
theorem readRows_ok {α β : Type} {read : α → Except Error β} {rows : List α}
    (h : ∀ r ∈ rows, ∃ b, read r = .ok b) : ∃ bs, readRows read rows = .ok bs := by
  induction rows with
  | nil => exact ⟨[], rfl⟩
  | cons r rows ih =>
    obtain ⟨⟨b, first⟩, rest⟩ := List.forall_mem_cons.1 h
    obtain ⟨bs, rest⟩ := ih rest
    exact ⟨b :: bs, by simp [readRows, first, rest]⟩

/-- Rows of hooks are read as these hooks. -/
theorem readRows_map_ofHook (hooks : List Hook) :
    readRows HookRow.read (hooks.map HookRow.ofHook) = .ok hooks := by
  induction hooks with
  | nil => rfl
  | cons h hooks ih => simp only [List.map_cons, readRows, HookRow.read_ofHook, ih]

namespace Store

/-! ## Insertion sort -/

/-- The names ascend. -/
def InOrder (rows : List HookRow) : Prop := rows.Pairwise fun a b => a.name ≤ b.name

variable {r : HookRow} {rows : List HookRow}

/-- To put a row in its place adds it. -/
theorem perm_insertByName (r : HookRow) (rows : List HookRow) :
    (insertByName r rows).Perm (r :: rows) := by
  induction rows with
  | nil => exact .refl _
  | cons x rows ih =>
    rw [insertByName]
    split
    · exact .refl _
    · exact (ih.cons x).trans (.swap r x rows)

/-- A row that is put in its place leaves the names ascending. -/
theorem inOrder_insertByName (h : InOrder rows) (r : HookRow) : InOrder (insertByName r rows) := by
  induction rows with
  | nil => exact List.pairwise_singleton _ r
  | cons x rows ih =>
    obtain ⟨least, rest⟩ := List.pairwise_cons.1 h
    rw [insertByName]
    split
    next first =>
      refine List.pairwise_cons.2 ⟨?_, h⟩
      rintro y (_ | ⟨_, behind⟩)
      · exact first.le
      · exact first.le.trans (least y behind)
    next notFirst =>
      refine List.pairwise_cons.2 ⟨fun y member => ?_, ih rest⟩
      obtain rfl | behind := List.mem_cons.1 ((perm_insertByName r rows).mem_iff.1 member)
      · exact not_lt.1 notFirst
      · exact least y behind

/-- A row that is put in its place finds it among any part of the rows. -/
theorem filter_insertByName (h : InOrder rows) (p : HookRow → Bool) (r : HookRow) :
    (insertByName r rows).filter p =
      if p r then insertByName r (rows.filter p) else rows.filter p := by
  induction rows with
  | nil => simp [insertByName, List.filter_cons]
  | cons x rows ih =>
    obtain ⟨least, rest⟩ := List.pairwise_cons.1 h
    rw [insertByName]
    split
    next first =>
      -- all rows that are left stand behind the new one, also the first of them
      have inFront : ∀ l : List HookRow, (∀ y ∈ l, y ∈ x :: rows) → insertByName r l = r :: l := by
        rintro (_ | ⟨y, l⟩) part
        · rfl
        · have ahead : r.name < y.name := by
            obtain rfl | behind := List.mem_cons.1 (part y List.mem_cons_self)
            · exact first
            · exact first.trans_le (least y behind)
          rw [insertByName, if_pos ahead]
      rw [inFront _ fun y => List.mem_of_mem_filter, List.filter_cons]
    next notFirst =>
      rw [List.filter_cons, ih rest, List.filter_cons]
      by_cases kept : p x = true
      · simp only [kept, if_true, insertByName, notFirst, if_false]
        split <;> rfl
      · simp only [kept, if_false, Bool.false_eq_true]

/-- A row that comes last is put in its place last. -/
theorem sortByName_concat (rows : List HookRow) (r : HookRow) :
    sortByName (rows ++ [r]) = insertByName r (sortByName rows) := by
  simp only [sortByName, List.foldl_append, List.foldl_cons, List.foldl_nil]

/-- To sort rows loses none and adds none. -/
theorem perm_sortByName (rows : List HookRow) : (sortByName rows).Perm rows := by
  induction rows using List.reverseRecOn with
  | nil => exact .refl _
  | append_singleton rows r ih =>
    rw [sortByName_concat]
    calc (insertByName r (sortByName rows)).Perm (r :: sortByName rows) := perm_insertByName r _
      List.Perm _ (r :: rows) := ih.cons r
      List.Perm _ (rows ++ [r]) := (List.perm_append_singleton r rows).symm

/-- Rows that are sorted have ascending names. -/
theorem inOrder_sortByName (rows : List HookRow) : InOrder (sortByName rows) := by
  induction rows using List.reverseRecOn with
  | nil => exact List.Pairwise.nil
  | append_singleton rows r ih =>
    rw [sortByName_concat]
    exact inOrder_insertByName ih r

/-- **The list of some rows** is the list of all of them without the others. -/
theorem filter_sortByName (p : HookRow → Bool) (rows : List HookRow) :
    (sortByName rows).filter p = sortByName (rows.filter p) := by
  induction rows using List.reverseRecOn with
  | nil => rfl
  | append_singleton rows r ih =>
    rw [sortByName_concat, filter_insertByName (inOrder_sortByName rows), ih, List.filter_append,
      List.filter_singleton]
    cases p r with
    | true => exact (sortByName_concat _ r).symm
    | false => exact congrArg sortByName (List.append_nil _).symm

end Store
end Casework
