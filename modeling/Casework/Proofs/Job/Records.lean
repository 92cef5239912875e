/-
# Records that come back from the wire

Each record that servers, workers and operators exchange is read back from what is written for it,
and from any other text with its members: in another order, with unknown members between them,
with blanks (`RoundTrips`). In a job descriptor the case and the item of evidence are such texts
themselves, or are left out.

| record | its texts |
| --- | --- |
| jobs, reports, wishes, declarations, runs, cases, evidence, hooks | `Wire.texts` |
| job descriptors | `JobDescriptor.texts` |

What is read does not depend on the time of reading, since no written record leaves out a time.
-/

import Casework.Proofs.Job.Message
import Casework.Proofs.Json.Arrangement

namespace Casework

open Text Json

/-! ## Round trips -/

/-- The whole text is one of the texts, up to blanks around it. -/
def Holds (texts : Texts) (s : String) : Prop :=
  ∃ before text after, Blanks before ∧ Blanks after ∧ texts text ∧
    s.toList = before ++ (text ++ after)

/-- **The values of a type survive the wire.** What is written for a value is read as the value,
and so is every other of its texts, what is written being one of them; and what was read from any
text whatsoever is read again from what is written for it. -/
structure RoundTrips (α : Type) [Wire α] (texts : α → Texts) : Prop where
  back : ∀ now (a : α), Wire.parse now (Wire.render a) = .ok a
  written : ∀ a, Holds (texts a) (Wire.render a)
  read : ∀ now a s, Holds (texts a) s → Wire.parse now s = .ok a
  again : ∀ now s (a : α), Wire.parse now s = .ok a →
    ∀ later, Wire.parse later (Wire.render a) = .ok a

/-- The texts of a value whose members are all written. -/
def Wire.texts {α : Type} [Wire α] (a : α) : Texts := (Wire.toJson a).texts

section roundTrips

variable {α : Type} [Wire α]

/-- A text holds itself, with no blanks around it. -/
theorem Holds.of_text {texts : Texts} {text : List Char} (h : texts text) :
    Holds texts (String.ofList text) :=
  ⟨[], text, [], blanks_nil, blanks_nil, h, by simp⟩

/-- A text that the codec takes is read as the value. -/
theorem Holds.parse {texts : Texts} {now : Timestamp} {a : α} {s : String} (h : Holds texts s)
    (takes : ∀ text, texts text → (Wire.codec α).Takes now (Wire.toDatum a) text)
    (same : Wire.ofDatum? (Wire.toDatum a) = some a) : Wire.parse now s = .ok a := by
  obtain ⟨before, text, after, front, blanks, one, whole⟩ := h
  have parted : Parted after := by
    simpa using Parted.blanks blanks parted_nil
  have empty : skipSpace after = [] := by
    rw [← List.append_nil after, skipSpace_blanks blanks]
    rfl
  rw [Wire.parse, Codec.readAll, whole, takes text one front parted]
  dsimp only
  rw [empty, if_pos (by rfl)]
  dsimp only
  rw [same]

/-- **A type survives the wire** if its codec takes every text of a value, and the value comes back
from its parts. -/
theorem RoundTrips.of_takes {texts : α → Texts}
    (written : ∀ a, texts a (Wire.toJson a).renderChars)
    (takes : ∀ now a text, texts a text → (Wire.codec α).Takes now (Wire.toDatum a) text)
    (same : ∀ a : α, Wire.ofDatum? (Wire.toDatum a) = some a) : RoundTrips α texts where
  back now a := (Holds.of_text (written a)).parse (takes now a) (same a)
  written a := .of_text (written a)
  read now a _ h := h.parse (takes now a) (same a)
  again _ _ a _ later := (Holds.of_text (written a)).parse (takes later a) (same a)

/-- The values are records whose fields keep their values and are never left out. -/
def Plain (α : Type) [Wire α] : Prop :=
  ∃ title fields, ∃ values : α → List Datum, Wire.codec α = .record title fields ∧
    (∀ a, Wire.toDatum a = .record (values a)) ∧ (fields.map Field.name).Nodup ∧
    ∀ now a, Kept now fields (values a)

namespace Plain

/-- The codec of a record takes every text of a value. -/
theorem takes (h : Plain α) (now : Timestamp) (a : α) (text : List Char)
    (one : Wire.texts a text) : (Wire.codec α).Takes now (Wire.toDatum a) text := by
  obtain ⟨title, fields, values, codec, datum, distinct, kept⟩ := h
  rw [Wire.texts, Wire.toJson, codec, datum] at one
  rw [codec, datum]
  exact (kept now a).takes_record title distinct one

/-- What is written for a value is one of its texts. -/
theorem written (h : Plain α) (a : α) : Wire.texts a (Wire.toJson a).renderChars := by
  obtain ⟨title, fields, values, codec, datum, distinct, kept⟩ := h
  rw [Wire.texts, Wire.toJson, codec, datum]
  exact (kept .epoch a).texts_renderChars title distinct

/-- Every text of a record begins with a brace. -/
theorem front (h : Plain α) {a : α} {text : List Char} (one : Wire.texts a text) :
    ∃ more, text = '\x7b' :: more := by
  obtain ⟨title, fields, values, codec, datum, -⟩ := h
  rw [Wire.texts, Wire.toJson, codec, datum] at one
  obtain ⟨ms, body, -, -, rfl⟩ := one
  exact ⟨body, rfl⟩

/-- **Plain records survive the wire.** -/
theorem roundTrips (h : Plain α) (same : ∀ a : α, Wire.ofDatum? (Wire.toDatum a) = some a) :
    RoundTrips α Wire.texts :=
  .of_takes h.written h.takes same

end Plain

end roundTrips

/-! ## Names and messages -/

/-- A status is known by its name. -/
theorem JobStatus.ofName?_name (status : JobStatus) : ofName? status.name = some status := by
  cases status <;> rfl

/-- The name of a status is among the names. -/
theorem JobStatus.name_mem (status : JobStatus) : status.name ∈ all.map name := by
  cases status <;> decide

/-- A status is kept by its codec. -/
theorem JobStatus.keeps (now : Timestamp) (status : JobStatus) :
    (Wire.codec JobStatus).Keeps now (Wire.toDatum status) :=
  Codec.keeps_choice status.name_mem now

/-- A status comes back from its name. -/
theorem JobStatus.ofDatum?_toDatum (status : JobStatus) :
    Wire.ofDatum? (Wire.toDatum status) = some status :=
  status.ofName?_name

/-- A trigger is kept by its codec. -/
theorem HookTrigger.keeps (now : Timestamp) (t : HookTrigger) :
    (Wire.codec HookTrigger).Keeps now (Wire.toDatum t) := by
  cases t
  exact Codec.keeps_choice (List.mem_singleton.2 rfl) now

/-- A trigger comes back from its name. -/
theorem HookTrigger.ofDatum?_toDatum (t : HookTrigger) :
    Wire.ofDatum? (Wire.toDatum t) = some t := by
  cases t
  rfl

/-- The outcome of a run that was never queued is written as `null`. -/
theorem keeps_status? (now : Timestamp) (status? : Option JobStatus) :
    (Codec.optional (Wire.codec JobStatus)).Keeps now (optionDatum status?) := by
  rcases status? with _ | status
  · exact Codec.keeps_null ..
  · exact (status.keeps now).optional rfl (by decide)

/-! ## Records without parts that are left out -/

open Codec (keeps_text keeps_int64 keeps_uint64 keeps_flag keeps_instant)

/-- Cases are plain records. -/
theorem Case.plain : Plain Case :=
  ⟨_, _, _, rfl, fun _ => rfl, by decide,
    fun now c => .cons rfl (keeps_text now c.id) <| .cons rfl (keeps_text now c.name) <|
      .cons rfl (keeps_int64 now c.sketchId) .nil⟩

/-- Items are plain records. -/
theorem Evidence.plain : Plain Evidence :=
  ⟨_, _, _, rfl, fun _ => rfl, by decide,
    fun now e => .cons rfl (keeps_text now e.id) <| .cons rfl (keeps_text now e.caseId) <|
      .cons rfl (keeps_text now e.kind) <| .cons rfl (keeps_text now e.name) <|
      .cons rfl (keeps_text now e.source) <| .cons rfl (keeps_text now e.notes) <|
      .cons rfl (keeps_int64 now e.size) <| .cons rfl (keeps_text now e.hash) <|
      .cons rfl (keeps_instant now e.addedAt) .nil⟩

/-- A job comes back from what it is made of. -/
theorem Job.ofDatum?_toDatum (j : Job) : Wire.ofDatum? (Wire.toDatum j) = some j := by
  show (Wire.ofDatum? (Wire.toDatum j.status)).map _ = _
  rw [JobStatus.ofDatum?_toDatum]
  rfl

/-- Jobs are plain records. -/
theorem Job.plain : Plain Job :=
  ⟨_, _, _, rfl, fun _ => rfl, by decide,
    fun now j => .cons rfl (keeps_text now j.id) <| .cons rfl (keeps_text now j.caseId) <|
      .cons rfl (keeps_text now j.evidenceId) <| .cons rfl (keeps_text now j.moduleName) <|
      .cons rfl (j.status.keeps now) <| .cons rfl (keeps_text now j.error) <|
      .cons rfl (keeps_text now j.serverToken) <| .cons rfl (keeps_text now j.workerToken) <|
      .cons rfl (keeps_instant now j.createdAt) <| .cons rfl (keeps_instant now j.updatedAt) .nil⟩

/-- A report comes back from what it is made of. -/
theorem AckRequest.ofDatum?_toDatum (a : AckRequest) :
    Wire.ofDatum? (Wire.toDatum a) = some a := by
  show (Wire.ofDatum? (Wire.toDatum a.status)).map _ = _
  rw [JobStatus.ofDatum?_toDatum]
  rfl

/-- Reports are plain records. -/
theorem AckRequest.plain : Plain AckRequest :=
  ⟨_, _, _, rfl, fun _ => rfl, by decide,
    fun now a => .cons rfl (keeps_text now a.id) <| .cons rfl (a.status.keeps now) <|
      .cons rfl (keeps_text now a.error) .nil⟩

/-- Wishes for a job are plain records. -/
theorem PushJobRequest.plain : Plain PushJobRequest :=
  ⟨_, _, _, rfl, fun _ => rfl, by decide,
    fun now p => .cons rfl (keeps_text now p.caseId) <| .cons rfl (keeps_text now p.evidenceId) <|
      .cons rfl (keeps_text now p.moduleName) .nil⟩

/-- A declaration comes back from what it is made of. -/
theorem ConnectParams.ofDatum?_toDatum (p : ConnectParams) :
    Wire.ofDatum? (Wire.toDatum p) = some p := by
  show some (⟨p.modules, UInt64.ofNat p.workers.toNat⟩ : ConnectParams) = _
  rw [UInt64.ofNat_toNat]

/-- Declarations are plain records. -/
theorem ConnectParams.plain : Plain ConnectParams :=
  ⟨_, _, _, rfl, fun _ => rfl, by decide,
    fun now p => .cons rfl (keeps_text now p.modules) <|
      .cons rfl (keeps_uint64 now p.workers) .nil⟩

/-- A module with its last run comes back from what it is made of. -/
theorem ModuleRun.ofDatum?_toDatum (r : ModuleRun) :
    Wire.ofDatum? (Wire.toDatum r) = some r := by
  show (datumOption? (optionDatum r.status?)).map _ = _
  rw [datumOption?_optionDatum r.status? JobStatus.ofDatum?_toDatum fun _ => Datum.noConfusion]
  rfl

/-- Modules with their last runs are plain records. -/
theorem ModuleRun.plain : Plain ModuleRun :=
  ⟨_, _, _, rfl, fun _ => rfl, by decide,
    fun now r => .cons rfl (keeps_text now r.name) <| .cons rfl (keeps_text now r.description) <|
      .cons rfl (keeps_status? now r.status?) <| .cons rfl (keeps_text now r.error) .nil⟩

/-- A hook comes back from what it is made of. -/
theorem Hook.ofDatum?_toDatum (h : Hook) : Wire.ofDatum? (Wire.toDatum h) = some h := by
  show (Wire.ofDatum? (Wire.toDatum h.trigger)).map _ = _
  rw [HookTrigger.ofDatum?_toDatum]
  rfl

/-- Hooks are plain records. -/
theorem Hook.plain : Plain Hook :=
  ⟨_, _, _, rfl, fun _ => rfl, by decide,
    fun now h => .cons rfl (keeps_text now h.id) <| .cons rfl (h.trigger.keeps now) <|
      .cons rfl (keeps_text now h.name) <| .cons rfl (keeps_text now h.module) <|
      .cons rfl (keeps_text now h.condition) <| .cons rfl (keeps_flag now h.enabled) .nil⟩

/-! ## Job descriptors -/

namespace JobDescriptor

/-- The names of the members of a descriptor. -/
def memberNames : List String := ["id", "workerToken", "name", "case", "evidence"]

/-- The own members of a descriptor; the case and the item of evidence may be missing, and are
texts in any order of their own members. -/
def ownMembers (d : JobDescriptor) : List (String × Texts) :=
  ownTexts [("id", .text d.id), ("workerToken", .text d.workerToken), ("name", .text d.name)] ++
    ((d.case?.toList.map fun c => ("case", Wire.texts c)) ++
      d.evidence?.toList.map fun e => ("evidence", Wire.texts e))

/-- The texts of a descriptor. -/
def texts (d : JobDescriptor) : Texts := ObjectText memberNames d.ownMembers

section option

variable {α : Type} [Wire α] {fields : List Json.Field} {ds : List Datum}
  {own : List (String × Texts)}

/-- A part that may be missing is left out, or taken from any of its texts. -/
theorem taken_option (plain : Plain α) (now : Timestamp) (name : String) (a? : Option α)
    {slots : Slots} (more : Taken now fields ds slots own) :
    ∃ slots, Taken now (⟨name, .optional (Wire.codec α), .defaulted, true⟩ :: fields)
      (optionDatum a? :: ds) slots ((a?.toList.map fun a => (name, Wire.texts a)) ++ own) := by
  rcases a? with _ | a
  · exact ⟨_, .leftOut rfl rfl more⟩
  · refine ⟨_, .written (fun text one => ?_) more⟩
    have takes := plain.takes now a text one
    obtain ⟨inside, rfl⟩ := plain.front one
    exact takes.optional (by decide) (by decide)

/-- And it is left out, or written as one of its texts. -/
theorem written_option (plain : Plain α) (name : String) (a? : Option α)
    (more : List.Forall₂ Written (writeFields fields ds) own) :
    List.Forall₂ Written
      (writeFields (⟨name, .optional (Wire.codec α), .defaulted, true⟩ :: fields)
        (optionDatum a? :: ds))
      ((a?.toList.map fun a => (name, Wire.texts a)) ++ own) := by
  rcases a? with _ | a
  · exact more
  · have written := plain.written a
    obtain ⟨_, _, values, -, datum, -⟩ := plain
    rw [Wire.toJson, datum] at written
    rw [optionDatum, datum]
    exact .cons ⟨rfl, written⟩ more

end option

/-- A descriptor takes each of its members, in whatever order they stand. -/
theorem taken (now : Timestamp) (d : JobDescriptor) : ∃ fields ds slots,
    Wire.codec JobDescriptor = .record "JobDescriptor" fields ∧ Wire.toDatum d = .record ds ∧
      fields.map Field.name = memberNames ∧ Taken now fields ds slots d.ownMembers := by
  obtain ⟨_, evidence⟩ := taken_option Evidence.plain now "evidence" d.evidence? .nil
  obtain ⟨_, both⟩ := taken_option Case.plain now "case" d.case? evidence
  rw [List.append_nil] at both
  exact ⟨_, _, _, rfl, rfl, rfl, .kept (keeps_text now d.id) <|
    .kept (keeps_text now d.workerToken) <| .kept (keeps_text now d.name) both⟩

/-- The codec takes every text of a descriptor, with a case and an item or without. -/
theorem takes (now : Timestamp) (d : JobDescriptor) (text : List Char) (one : d.texts text) :
    (Wire.codec JobDescriptor).Takes now (Wire.toDatum d) text := by
  obtain ⟨fields, ds, slots, codec, datum, names, taken⟩ := d.taken now
  rw [texts, ← names] at one
  rw [codec, datum]
  exact Codec.takes_record _ taken (names ▸ by decide) one

/-- What is written for a descriptor is one of its texts. -/
theorem written (d : JobDescriptor) : d.texts (Wire.toJson d).renderChars := by
  obtain ⟨fields, ds, slots, -, -, names, taken⟩ := d.taken .epoch
  have inside := taken.sublist
  rw [names] at inside
  have none : List.Forall₂ Written (writeFields [] []) [] := .nil
  have evidence := written_option Evidence.plain "evidence" d.evidence? none
  have both := written_option Case.plain "case" d.case? evidence
  rw [List.append_nil] at both
  refine objectText_renderChars (.cons ⟨rfl, rfl⟩ <| .cons ⟨rfl, rfl⟩ <| .cons ⟨rfl, rfl⟩ both)
    (.sublist inside (by decide)) fun o ho => inside.subset (List.mem_map_of_mem ho)

/-- **Descriptors survive the wire,** though they are no plain records. -/
theorem roundTrips : RoundTrips JobDescriptor texts :=
  .of_takes written takes ofDatum?_toDatum

/-- A sign of life is known as one. -/
theorem isKeepAlive_keepAlive (worker : WorkerToken) : (keepAlive worker).isKeepAlive = true := rfl

/-- The descriptor of a job with an id is not taken for a sign of life. -/
theorem isKeepAlive_ofJob {job : Job} (queued : job.id ≠ "") (worker : WorkerToken) (c : Case)
    (e : Evidence) : (ofJob job worker c e).isKeepAlive = false := by
  rw [isKeepAlive, ofJob, beq_eq_false_iff_ne.2 queued, Bool.and_false]

end JobDescriptor

/-! ## All records -/

/-- **Every record survives the wire**, from whatever text of it. A sign of life is read as a sign
of life, and no job that has an id is taken for one, not even under the reserved name. -/
theorem records_round_trip :
    RoundTrips Job Wire.texts ∧ RoundTrips JobDescriptor JobDescriptor.texts ∧
      RoundTrips AckRequest Wire.texts ∧ RoundTrips PushJobRequest Wire.texts ∧
      RoundTrips ConnectParams Wire.texts ∧ RoundTrips ModuleRun Wire.texts ∧
      RoundTrips Case Wire.texts ∧ RoundTrips Evidence Wire.texts ∧ RoundTrips Hook Wire.texts ∧
      (∀ worker, (JobDescriptor.keepAlive worker).isKeepAlive = true ∧
        ∀ now s, Holds (JobDescriptor.keepAlive worker).texts s →
          ∃ d : JobDescriptor, Wire.parse now s = .ok d ∧ d.isKeepAlive = true) ∧
      ∀ job worker c e, job.id ≠ "" →
        (JobDescriptor.ofJob job worker c e).isKeepAlive = false ∧
        ∀ now s, Holds (JobDescriptor.ofJob job worker c e).texts s →
          ∃ d : JobDescriptor, Wire.parse now s = .ok d ∧ d.isKeepAlive = false := by
  refine ⟨Job.plain.roundTrips Job.ofDatum?_toDatum, JobDescriptor.roundTrips,
    AckRequest.plain.roundTrips AckRequest.ofDatum?_toDatum,
    PushJobRequest.plain.roundTrips fun _ => rfl,
    ConnectParams.plain.roundTrips ConnectParams.ofDatum?_toDatum,
    ModuleRun.plain.roundTrips ModuleRun.ofDatum?_toDatum,
    Case.plain.roundTrips Case.ofDatum?_toDatum,
    Evidence.plain.roundTrips Evidence.ofDatum?_toDatum,
    Hook.plain.roundTrips Hook.ofDatum?_toDatum, ?_, ?_⟩
  · intro worker
    have alive := JobDescriptor.isKeepAlive_keepAlive worker
    exact ⟨alive, fun now s h => ⟨_, JobDescriptor.roundTrips.read now _ s h, alive⟩⟩
  · intro job worker c e queued
    have other := JobDescriptor.isKeepAlive_ofJob queued worker c e
    exact ⟨other, fun now s h => ⟨_, JobDescriptor.roundTrips.read now _ s h, other⟩⟩

/-- A declaration with its members in another order, and a member that declarations do not have. -/
def reorderedParams : String :=
  "\x7b\"workers\": 4, \"x\":[null,-1.5e3],\"modules\":\"m\"\x7d "

/-- Its members. -/
def reorderedMembers : List Member :=
  [("workers", "4".toList), ("x", "[null,-1.5e3]".toList), ("modules", "\"m\"".toList)]

/-- A declaration in another order, with a member more, is read as the same. -/
theorem records_round_trip_reordered :
    Holds (Wire.texts (⟨"m", 4⟩ : ConnectParams)) reorderedParams ∧
      Wire.parse .epoch reorderedParams = .ok (⟨"m", 4⟩ : ConnectParams) := by
  have digits (c : Char) (h : c.isDigit = true) : SomeDigits [c] :=
    ⟨List.forall_mem_singleton.2 h, List.cons_ne_nil _ _⟩
  have number : IsNumber ['1', '.', '5', 'e', '3'] :=
    ⟨['1'], ['.', '5'], ['e', '3'], ⟨digits _ rfl, by decide⟩, .inr ⟨_, digits _ rfl, rfl⟩,
      .inr ⟨'e', .inl rfl, [], .inl rfl, _, digits _ rfl, rfl⟩, rfl⟩
  have extra : Spelt .value "[null,-1.5e3]".toList :=
    .array .null (.item (.negative number) .closeArray)
  have blank : Blanks [' '] := List.forall_mem_singleton.2 rfl
  have arranged : Arranges ["modules", "workers"]
      (ownTexts [("modules", .text "m"), ("workers", .number 4)]) reorderedMembers := by
    constructor
    · decide
    · have four : (Json.number 4).renderChars = ['4'] := rfl
      have letter : (Json.text "m").renderChars = ['"', 'm', '"'] := rfl
      simp [ownTexts, reorderedMembers, four, letter]
    · simp only [reorderedMembers, List.forall_mem_cons]
      exact ⟨fun h => absurd h (by decide), fun _ => extra, fun h => absurd h (by decide),
        List.forall_mem_nil _⟩
  have laid : Laid true reorderedMembers _ :=
    .member blanks_nil .first (spells_quoted _) blanks_nil blank <|
    .member blanks_nil (.comma blank) (spells_quoted _) blanks_nil blanks_nil <|
    .member blanks_nil (.comma blanks_nil) (spells_quoted _) blanks_nil blanks_nil <|
    .close blanks_nil
  have holds : Holds (Wire.texts (⟨"m", 4⟩ : ConnectParams)) reorderedParams :=
    ⟨[], _, [' '], blanks_nil, blank, ⟨_, _, arranged, laid, rfl⟩, rfl⟩
  exact ⟨holds, records_round_trip.2.2.2.2.1.read .epoch _ _ holds⟩

end Casework
