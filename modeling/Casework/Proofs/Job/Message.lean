/-
# Descriptors as text

A type whose values travel as records has its values read back from their JSON
(`Recorded.parse_render`), and what is left of such a text after a cut is refused
(`Recorded.parse_cut`). Job descriptors are such records, with the case and the item of evidence
as records inside them: the two are left out together with their names when they are missing.
-/

import Casework.Job.Message
import Casework.Proofs.Json.Codec

namespace Casework

open Text Json

/-- The value travels as a record, whose fields carry what it is made of. -/
def Recorded {α : Type} [Wire α] (now : Timestamp) (a : α) : Prop :=
  ∃ title fields values slots ms, Wire.codec α = .record title fields ∧
    Wire.toDatum a = .record values ∧ (fields.map Field.name).Nodup ∧ Fits now fields values slots ms

namespace Recorded

variable {α : Type} [Wire α] {now : Timestamp} {a : α}

/-- A record whose fields carry their values is carried. -/
theorem carries (h : Recorded now a) : (Wire.codec α).Carries now (Wire.toDatum a) := by
  obtain ⟨title, fields, values, slots, ms, codec, datum, distinct, fits⟩ := h
  rw [codec, datum]
  exact Codec.carries_record title fits distinct

/-- The text of a record begins and ends with a brace. -/
theorem renderChars_toJson (h : Recorded now a) :
    ∃ middle, (Wire.toJson a).renderChars = '\x7b' :: (middle ++ ['\x7d']) := by
  obtain ⟨title, fields, values, slots, ms, codec, datum, distinct, fits⟩ := h
  have closed (first : Bool) (ms : List (String × Json)) :
      ∃ middle, membersText first ms = middle ++ ['\x7d'] := by
    induction ms generalizing first with
    | nil => exact ⟨[], rfl⟩
    | cons m ms ih =>
      obtain ⟨middle, text⟩ := ih false
      rw [membersText, text]
      exact ⟨(if first then [] else [',']) ++
        (renderText m.1 ++ ':' :: (m.2.renderChars ++ middle)), by simp⟩
  obtain ⟨middle, text⟩ := closed true ms
  refine ⟨middle, ?_⟩
  rw [Wire.toJson, codec, datum, renderChars_record fits, text]

/-- **What is rendered is read back.** -/
theorem parse_render (h : Recorded now a) (back : Wire.ofDatum? (Wire.toDatum a) = some a) :
    Wire.parse now (Wire.render a) = .ok a := by
  have ends : Ends [] := by simp [Ends]
  have read := h.carries.read ends
  rw [List.append_nil] at read
  rw [Wire.parse, Codec.readAll, Wire.render, Json.render, String.toList_ofList, Wire.toJson, read]
  dsimp only
  rw [if_pos (by rfl)]
  dsimp only
  rw [back]

/-- **What is left of a record after a cut is refused.** -/
theorem parse_cut (h : Recorded now a) {s : String} (cut : Cut s.toList (Wire.render a).toList) :
    ∃ e, Wire.parse (α := α) now s = .error e := by
  obtain ⟨title, fields, values, slots, ms, codec, datum, distinct, fits⟩ := h
  rw [Wire.render, Json.render, String.toList_ofList, Wire.toJson, datum, codec] at cut
  obtain ⟨e, refused⟩ := readRecord_cut fits distinct cut
  refine ⟨e, ?_⟩
  rw [Wire.parse, codec, Codec.readAll, refused]

/-- A record that may be missing fits its field: it is left out, or carried as it is. -/
theorem fits_option (name : String) {a? : Option α} (h : ∀ a ∈ a?, Recorded now a)
    {fields : List Json.Field} {ds : List Datum} {slots : Slots} {ms : List (String × Json)}
    (more : Fits now fields ds slots ms) : ∃ slots ms,
      Fits now (⟨name, .optional (Wire.codec α), .defaulted, true⟩ :: fields)
        (optionDatum a? :: ds) slots ms := by
  rcases a? with _ | a
  · exact ⟨_, _, .leftOut rfl rfl rfl more⟩
  · have carried := (h a rfl).carries
    obtain ⟨middle, text⟩ := (h a rfl).renderChars_toJson
    obtain ⟨-, -, values, -, -, -, datum, -, -⟩ := h a rfl
    have there : Wire.toDatum a ≠ .absent := by
      rw [datum]
      exact Datum.noConfusion
    exact ⟨_, _, .written (.inl there) (carried.optional there text (by decide) (by decide)) more⟩

end Recorded

/-- A case travels as a record. -/
theorem Case.recorded (now : Timestamp) (c : Case) : Recorded now c :=
  ⟨_, _, _, _, _, rfl, rfl, by decide, .written (.inr rfl) (Codec.carries_text ..) <|
    .written (.inr rfl) (Codec.carries_text ..) <|
    .written (.inr rfl) (Codec.carries_int64 ..) .nil⟩

/-- A case comes back from what it is made of. -/
theorem Case.ofDatum?_toDatum (c : Case) : Wire.ofDatum? (Wire.toDatum c) = some c := by
  show some (⟨c.id, c.name, Int64.ofInt c.sketchId.toInt⟩ : Case) = _
  rw [Int64.ofInt_toInt]

/-- An item travels as a record. -/
theorem Evidence.recorded (now : Timestamp) (e : Evidence) : Recorded now e :=
  ⟨_, _, _, _, _, rfl, rfl, by decide, .written (.inr rfl) (Codec.carries_text ..) <|
    .written (.inr rfl) (Codec.carries_text ..) <|
    .written (.inr rfl) (Codec.carries_text ..) <|
    .written (.inr rfl) (Codec.carries_text ..) <|
    .written (.inr rfl) (Codec.carries_text ..) <|
    .written (.inr rfl) (Codec.carries_text ..) <|
    .written (.inr rfl) (Codec.carries_int64 ..) <|
    .written (.inr rfl) (Codec.carries_text ..) <|
    .written (.inr rfl) (Codec.carries_instant ..) .nil⟩

/-- An item comes back from what it is made of. -/
theorem Evidence.ofDatum?_toDatum (e : Evidence) : Wire.ofDatum? (Wire.toDatum e) = some e := by
  show some (⟨e.id, e.caseId, e.kind, e.name, e.source, e.notes, Int64.ofInt e.size.toInt, e.hash,
    e.addedAt⟩ : Evidence) = _
  rw [Int64.ofInt_toInt]

/-- What may be missing comes back if it does when it is there, and is never taken for missing. -/
theorem datumOption?_optionDatum {α : Type} [Wire α] (a? : Option α)
    (back : ∀ a : α, Wire.ofDatum? (Wire.toDatum a) = some a)
    (there : ∀ a : α, Wire.toDatum a ≠ .absent) : datumOption? (optionDatum a?) = some a? := by
  rcases a? with _ | a
  · rfl
  · rw [optionDatum, datumOption?]
    · rw [back]
      rfl
    · exact there a

namespace JobDescriptor

/-- A descriptor travels as a record. -/
theorem recorded (now : Timestamp) (d : JobDescriptor) : Recorded now d := by
  have evidence : ∀ e ∈ d.evidence?, Recorded now e := fun e _ => e.recorded now
  have case : ∀ c ∈ d.case?, Recorded now c := fun c _ => c.recorded now
  obtain ⟨_, _, item⟩ := Recorded.fits_option "evidence" evidence .nil
  obtain ⟨_, _, both⟩ := Recorded.fits_option "case" case item
  exact ⟨_, _, _, _, _, rfl, rfl, by decide, .written (.inr rfl) (Codec.carries_text ..) <|
    .written (.inr rfl) (Codec.carries_text ..) <|
    .written (.inr rfl) (Codec.carries_text ..) both⟩

/-- A descriptor comes back from what it is made of. -/
theorem ofDatum?_toDatum (d : JobDescriptor) : Wire.ofDatum? (Wire.toDatum d) = some d := by
  have there := datumOption?_optionDatum d.case? Case.ofDatum?_toDatum
    fun _ => Datum.noConfusion
  have item := datumOption?_optionDatum d.evidence? Evidence.ofDatum?_toDatum
    fun _ => Datum.noConfusion
  simp only [Wire.ofDatum?, Wire.toDatum] at there item ⊢
  rw [there, item]

end JobDescriptor
end Casework
