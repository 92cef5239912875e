/-
# Records in any arrangement of their members

A record is written in one way and read in many: its members in any order, members of unknown
names between them, and blanks (`ObjectText`). What each codec writes for a value it also takes
(`Codec.Takes`), and a record whose fields take their texts takes every arrangement of them
(`Codec.takes_record`).

| field | value | member |
| --- | --- | --- |
| `Taken.written` | read by the codec from any of its texts | one, wherever it stands |
| `Taken.leftOut` | absent, which is what the field is blank with | none |
-/

import Casework.Proofs.Json.Members

namespace Casework
namespace Json

open Text

/-! ## Arrangements -/

/-- The texts that stand for a value. -/
abbrev Texts := List Char → Prop

/-- The members are `own`, each once and in any order, and others whose names are not `known`. -/
structure Arranges (known : List String) (own : List (String × Texts)) (ms : List Member) :
    Prop where
  once : ((ms.map Prod.fst).filter (· ∈ known)).Perm (own.map Prod.fst)
  values : ∀ m ∈ ms, ∀ o ∈ own, m.1 = o.1 → o.2 m.2
  others : ∀ m ∈ ms, m.1 ∉ known → Spelt .value m.2

/-- **The texts of an object with the members `own`**, in any order and with any members added
whose names are not `known`. -/
def ObjectText (known : List String) (own : List (String × Texts)) : Texts := fun text =>
  ∃ ms body, Arranges known own ms ∧ Laid true ms body ∧ text = '\x7b' :: body

/-- The members of an object are written as they may be laid out. -/
theorem laid_membersText (first : Bool) (ms : List (String × Json)) :
    Laid first (ms.map fun m => (m.1, m.2.renderChars)) (membersText first ms) := by
  induction ms generalizing first with
  | nil => exact .close blanks_nil
  | cons m ms ih =>
    have comma : Gap first (if first then [] else [',']) := by
      cases first
      · exact .comma blanks_nil
      · exact .first
    have laid : Laid first ((m.1, m.2.renderChars) :: _) _ :=
      .member blanks_nil comma (spells_quoted m.1.toList) blanks_nil blanks_nil (ih false)
    simpa [membersText, renderText_eq] using laid

/-- The member is one of the texts of the own member. -/
abbrev Written (m : String × Json) (o : String × Texts) : Prop :=
  m.1 = o.1 ∧ o.2 m.2.renderChars

section written

variable {ms : List (String × Json)} {own : List (String × Texts)}

/-- Members that are written have the names of the own ones. -/
theorem names_written (all : List.Forall₂ Written ms own) :
    ms.map Prod.fst = own.map Prod.fst := by
  induction all with
  | nil => rfl
  | cons one _ ih => rw [List.map_cons, List.map_cons, one.1, ih]

/-- Names being distinct, a member is a text of the own member of its name. -/
theorem text_written (all : List.Forall₂ Written ms own) (distinct : (own.map Prod.fst).Nodup)
    {m : String × Json} (hm : m ∈ ms) {o : String × Texts} (ho : o ∈ own) (same : m.1 = o.1) :
    o.2 m.2.renderChars := by
  induction all with
  | nil => cases hm
  | @cons m' o' ms own one more ih =>
    rw [List.map_cons, List.nodup_cons] at distinct
    rcases List.mem_cons.1 hm with rfl | hm
    · rcases List.mem_cons.1 ho with rfl | ho
      · exact one.2
      · rw [one.1] at same
        exact absurd (same ▸ List.mem_map_of_mem ho) distinct.1
    · rcases List.mem_cons.1 ho with rfl | ho
      · have twice := List.mem_map_of_mem (f := Prod.fst) hm
        rw [names_written more, same] at twice
        exact absurd twice distinct.1
      · exact ih distinct.2 hm ho

/-- **What is written is one of the texts.** -/
theorem objectText_renderChars {known : List String} (all : List.Forall₂ Written ms own)
    (distinct : (own.map Prod.fst).Nodup) (inside : ∀ o ∈ own, o.1 ∈ known) :
    ObjectText known own (Json.object ms).renderChars := by
  refine ⟨ms.map fun m => (m.1, m.2.renderChars), _, ?_, laid_membersText true ms,
    renderChars_object ms⟩
  have names : (ms.map fun m => (m.1, m.2.renderChars)).map Prod.fst = own.map Prod.fst := by
    rw [List.map_map, ← names_written all]
    rfl
  have here : ∀ name ∈ own.map Prod.fst, name ∈ known := by
    intro name h
    obtain ⟨o, ho, rfl⟩ := List.mem_map.1 h
    exact inside o ho
  constructor
  · rw [names, List.filter_eq_self.2 (by simpa using here)]
  · intro m hm o ho same
    obtain ⟨j, hj, rfl⟩ := List.mem_map.1 hm
    exact text_written all distinct hj ho same
  · intro m hm unknown
    have listed := List.mem_map_of_mem (f := Prod.fst) hm
    rw [names] at listed
    exact absurd (here _ listed) unknown

end written

/-! ## Records that are taken -/

/-- **What becomes of the values of a record**, whatever order they come in: the slot of each
field, and the own members with their texts. -/
inductive Taken (now : Timestamp) :
    List Field → List Datum → Slots → List (String × Texts) → Prop
  | nil : Taken now [] [] [] []
  | leftOut {f fs ds slots own} (missing : f.missing = .defaulted)
      (blank : f.codec.blank now = .absent) (more : Taken now fs ds slots own) :
      Taken now (f :: fs) (.absent :: ds) (none :: slots) own
  | written {f fs d ds slots own texts} (takes : ∀ text, texts text → f.codec.Takes now d text)
      (more : Taken now fs ds slots own) :
      Taken now (f :: fs) (d :: ds) (some d :: slots) ((f.name, texts) :: own)

namespace Taken

variable {now : Timestamp} {fields : List Field} {ds : List Datum} {slots : Slots}
  {own : List (String × Texts)} {ms : List Member}

/-- A value that its field keeps is taken as it is written. -/
theorem kept {f : Field} {d : Datum} (keeps : f.codec.Keeps now d)
    (more : Taken now fields ds slots own) : Taken now (f :: fields) (d :: ds) (some d :: slots)
      ((f.name, fun text => text = (f.codec.write d).renderChars) :: own) := by
  refine .written ?_ more
  rintro _ rfl
  exact keeps

/-- There is a slot for each field. -/
theorem length_eq (h : Taken now fields ds slots own) : slots.length = fields.length := by
  induction h with
  | nil => rfl
  | leftOut _ _ _ ih => rw [List.length_cons, List.length_cons, ih]
  | written _ _ ih => rw [List.length_cons, List.length_cons, ih]

/-- The slots give the values of the record. -/
theorem fillSlots (h : Taken now fields ds slots own) :
    Json.fillSlots now fields slots = .ok ds := by
  induction h with
  | nil => rfl
  | leftOut missing blank _ ih =>
    rw [Json.fillSlots, missing]
    · dsimp only
      rw [ih, blank]
      rfl
    · simp
  | written _ _ ih => rw [Json.fillSlots, ih]; rfl

/-- The own members are of the fields. -/
theorem sublist (h : Taken now fields ds slots own) :
    (own.map Prod.fst).Sublist (fields.map Field.name) := by
  induction h with
  | nil => exact .slnil
  | leftOut _ _ _ ih => exact ih.cons _
  | written _ _ ih => exact ih.cons_cons _

/-- An own member is taken into the slot of its field. -/
theorem slot (h : Taken now fields ds slots own) {o : String × Texts} (ho : o ∈ own) :
    ∃ (i : ℕ) (f : Field) (d : Datum), fields[i]? = some f ∧ f.name = o.1 ∧
      slots[i]? = some (some d) ∧ ∀ text, o.2 text → f.codec.Takes now d text := by
  induction h with
  | nil => cases ho
  | leftOut _ _ _ ih =>
    obtain ⟨i, f, d, found⟩ := ih ho
    exact ⟨i + 1, f, d, found⟩
  | written takes _ ih =>
    rcases List.mem_cons.1 ho with rfl | ho
    · exact ⟨0, _, _, rfl, rfl, rfl, takes⟩
    · obtain ⟨i, f, d, found⟩ := ih ho
      exact ⟨i + 1, f, d, found⟩

/-- A slot that gets a value is that of an own member. -/
theorem named (h : Taken now fields ds slots own) {i : ℕ} {f : Field} {d : Datum}
    (found : fields[i]? = some f) (slot : slots[i]? = some (some d)) :
    f.name ∈ own.map Prod.fst := by
  induction h generalizing i with
  | nil => cases found
  | leftOut _ _ _ ih =>
    rcases i with _ | i
    · cases slot
    · exact ih found slot
  | written _ _ ih =>
    rcases i with _ | i
    · cases found
      exact List.mem_cons_self ..
    · exact .tail _ (ih found slot)

/-- Before the first member every slot is empty. -/
theorem waiting_all (h : Taken now fields ds slots own)
    (arranged : Arranges (fields.map Field.name) own ms) :
    waiting fields (ms.map Prod.fst) slots = fields.map fun _ => none := by
  refine List.ext_getElem? fun i => ?_
  rcases found : fields[i]? with _ | f
  · rw [getElem?_waiting_none found, List.getElem?_map, found]
    rfl
  · rw [getElem?_waiting found, List.getElem?_map, found]
    rcases slot : slots[i]? with _ | _ | d
    · rw [List.getElem?_eq_none_iff, h.length_eq, ← List.getElem?_eq_none_iff, found] at slot
      cases slot
    · simp
    · have listed := arranged.once.symm.subset (h.named found slot)
      have there := (List.mem_filter.1 listed).1
      rw [Option.map_some, Option.map_some, if_pos there]

/-- Each member finds its place. -/
theorem placed (h : Taken now fields ds slots own) (distinct : (fields.map Field.name).Nodup)
    (arranged : Arranges (fields.map Field.name) own ms) :
    ∀ m ∈ ms, Placed fields now slots m := by
  intro m hm
  rw [Placed]
  split
  · rename_i other
    exact arranged.others m hm (findField_eq_none_iff.1 other)
  · rename_i i f found
    obtain ⟨j, rfl, there, same⟩ := findField_eq_some found
    have known : m.1 ∈ fields.map Field.name := by
      rw [← same]
      exact List.mem_map_of_mem (List.mem_of_getElem? there)
    have listed : m.1 ∈ own.map Prod.fst :=
      arranged.once.subset (List.mem_filter.2 ⟨List.mem_map_of_mem hm, by simpa using known⟩)
    obtain ⟨o, ho, named⟩ := List.mem_map.1 listed
    obtain ⟨k, g, d, own, called, slot, takes⟩ := h.slot ho
    obtain rfl := eq_of_name distinct there own (same.trans (named.symm.trans called.symm))
    obtain rfl := Option.some.inj (there.symm.trans own)
    rw [Nat.zero_add]
    exact ⟨d, slot, takes _ (arranged.values m hm o ho named.symm)⟩

end Taken

/-- **A record takes every arrangement of its members.** -/
theorem Codec.takes_record {now : Timestamp} (title : String) {fields : List Field}
    {ds : List Datum} {slots : Slots} {own : List (String × Texts)}
    (h : Taken now fields ds slots own) (distinct : (fields.map Field.name).Nodup)
    {text : List Char} (arranged : ObjectText (fields.map Field.name) own text) :
    (Codec.record title fields).Takes now (.record ds) text := by
  intro ws rest blanks _
  obtain ⟨ms, body, arranged, laid, rfl⟩ := arranged
  have once : ((ms.map Prod.fst).filter (· ∈ fields.map Field.name)).Nodup :=
    arranged.once.nodup_iff.2 (distinct.sublist h.sublist)
  have enough := laid.length_lt
  have members : readMembers fields now ((body ++ rest).length + 1) true _ (body ++ rest) =
      .ok (slots, rest) :=
    laid.readMembers h.length_eq distinct (h.placed distinct arranged) once
      (by rw [List.length_append]; omega) rest
  rw [h.waiting_all arranged] at members
  have skipped : (Codec.record title fields).read now (ws ++ ('\x7b' :: body ++ rest)) =
      (Codec.record title fields).read now ('\x7b' :: (body ++ rest)) := by
    rw [Codec.record]
    dsimp only
    rw [readRecord, readRecord, List.cons_append, skipSpace_blanks blanks]
  rw [skipped, read_object, members]
  dsimp only
  rw [h.fillSlots]
  rfl

/-! ## Records as they are written -/

/-- The members with the one text that each is written with. -/
def ownTexts (ms : List (String × Json)) : List (String × Texts) :=
  ms.map fun m => (m.1, fun text => text = m.2.renderChars)

/-- The texts of a value: of an object those with its members in any order and others added, of
any other value the one that is written. -/
def texts : Json → Texts
  | .object ms => ObjectText (ms.map Prod.fst) (ownTexts ms)
  | j => fun text => text = j.renderChars

/-- The own members have their names. -/
theorem names_ownTexts (ms : List (String × Json)) :
    (ownTexts ms).map Prod.fst = ms.map Prod.fst := by
  rw [ownTexts, List.map_map]
  rfl

/-- Each of the own members is written in its one text. -/
theorem written_ownTexts (ms : List (String × Json)) : List.Forall₂ Written ms (ownTexts ms) := by
  rw [ownTexts, List.forall₂_map_right_iff, List.forall₂_same]
  exact fun m _ => ⟨rfl, rfl⟩

/-- The fields keep the values, and none is left out. -/
abbrev Kept (now : Timestamp) : List Field → List Datum → Prop :=
  List.Forall₂ fun f d => (d ≠ .absent ∨ f.leftOut = false) ∧ f.codec.Keeps now d

namespace Kept

variable {now : Timestamp} {fields : List Field} {ds : List Datum}

theorem nil : Kept now [] [] := List.Forall₂.nil

/-- A field that is never left out keeps its value, whatever it is. -/
theorem cons {f : Field} {d : Datum} (shown : f.leftOut = false) (keeps : f.codec.Keeps now d)
    (more : Kept now fields ds) : Kept now (f :: fields) (d :: ds) :=
  List.Forall₂.cons ⟨.inr shown, keeps⟩ more

/-- The members that are written have the names of the fields. -/
theorem names (h : Kept now fields ds) :
    (writeFields fields ds).map Prod.fst = fields.map Field.name := by
  induction h with
  | nil => rfl
  | cons one _ ih => rw [writeFields_shown one.1, List.map_cons, List.map_cons, ih]

/-- Values that are kept are taken from what is written for them. -/
theorem taken (h : Kept now fields ds) :
    Taken now fields ds (ds.map some) (ownTexts (writeFields fields ds)) := by
  induction h with
  | nil => exact .nil
  | cons one _ ih =>
    rw [writeFields_shown one.1]
    exact .kept one.2 ih

/-- **A record that keeps its values takes all their texts.** -/
theorem takes_record (h : Kept now fields ds) (title : String)
    (distinct : (fields.map Field.name).Nodup) {text : List Char}
    (one : ((Codec.record title fields).write (.record ds)).texts text) :
    (Codec.record title fields).Takes now (.record ds) text := by
  replace one : ObjectText ((writeFields fields ds).map Prod.fst) _ text := one
  rw [h.names] at one
  exact Codec.takes_record title h.taken distinct one

/-- **What is written for a record is one of its texts.** -/
theorem texts_renderChars (h : Kept now fields ds) (title : String)
    (distinct : (fields.map Field.name).Nodup) :
    ((Codec.record title fields).write (.record ds)).texts
      ((Codec.record title fields).write (.record ds)).renderChars := by
  refine objectText_renderChars (written_ownTexts _) ?_ ?_
  · rw [names_ownTexts, h.names]
    exact distinct
  · intro o ho
    rw [← names_ownTexts]
    exact List.mem_map_of_mem ho

end Kept

end Json
end Casework
