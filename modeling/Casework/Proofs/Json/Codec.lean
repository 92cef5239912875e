/-
# Values carried by their codecs

A codec keeps a value if it takes the JSON that it writes for it off the front of any text
(`Codec.Keeps`). It carries the value if also of JSON that was cut off nothing is left over by a
reader that takes it for a shorter value (`Codec.Carries`): numbers are the only values that can
be cut off and still be read.

A record carries its values if each field carries its own or leaves out one that is absent
(`Fits`). The members are written in the order of the fields, so that reading fills the slots one
after the other; a record that is cut off anywhere is refused (`readRecord_cut`), because its
closing brace is missing.
-/

import Casework.Proofs.Json.Reader
import Casework.Proofs.Timestamp.Reader

namespace Casework
namespace Json

open Text

/-- The codec takes the value off the front of its text, blanks before it and whatever cannot
belong to it behind it. -/
def Codec.Takes (c : Codec) (now : Timestamp) (d : Datum) (text : List Char) : Prop :=
  ∀ ⦃ws rest⦄, Blanks ws → Parted rest → c.read now (ws ++ (text ++ rest)) = .ok (d, rest)

/-- The codec takes what it writes for the value. -/
def Codec.Keeps (c : Codec) (now : Timestamp) (d : Datum) : Prop :=
  c.Takes now d (c.write d).renderChars

/-- What a codec writes for the value is read back by it, and nothing is left over by a reading
of a part. -/
structure Codec.Carries (c : Codec) (now : Timestamp) (d : Datum) : Prop where
  read : ∀ {rest}, Ends rest → c.read now ((c.write d).renderChars ++ rest) = .ok (d, rest)
  cut : ∀ {p}, Cut p (c.write d).renderChars →
    ∀ {d' rest}, c.read now p = .ok (d', rest) → rest = []

/-- What a codec keeps it reads back, whatever ends the record behind it. -/
theorem Codec.Keeps.read {c : Codec} {now : Timestamp} {d : Datum} (h : c.Keeps now d)
    {rest : List Char} (ends : Ends rest) :
    c.read now ((c.write d).renderChars ++ rest) = .ok (d, rest) :=
  h blanks_nil ends.parted

/-! ## Values that are taken -/

/-- A text is read back from its quotes. -/
theorem readText_renderText (wanted s : String) (rest : List Char) :
    readText wanted (renderText s ++ rest) = .ok (s, rest) := by
  rw [renderText_eq, List.cons_append, readText, skipSpace_cons (by decide)]
  exact textBody_quoted s rest

/-- Blanks before a text make no difference. -/
theorem readText_blanks {ws : List Char} (blanks : Blanks ws) (wanted : String) (cs : List Char) :
    readText wanted (ws ++ cs) = readText wanted cs := by
  rw [readText, readText, skipSpace_blanks blanks]

/-- Texts are kept. -/
theorem Codec.keeps_text (now : Timestamp) (s : String) : Codec.text.Keeps now (.text s) := by
  intro ws rest blanks _
  show (readText _ (ws ++ (renderText s ++ rest))).map _ = _
  rw [readText_blanks blanks, readText_renderText]
  rfl

/-- An integer is kept if it is in the range, and the range can be read. -/
theorem Codec.keeps_integer {wanted : String} {low high n : Int}
    (lowest : -(maxI64 : Int) - 1 ≤ low) (highest : high ≤ maxU64) (above : low ≤ n)
    (below : n ≤ high) (now : Timestamp) :
    (Codec.integer wanted low high).Keeps now (.integer n) := by
  intro ws rest blanks ends
  have same (cs : List Char) : readInteger wanted low high (ws ++ cs) =
      readInteger wanted low high cs := by
    rw [readInteger, readInteger, skipSpace_blanks blanks]
  show (readInteger _ _ _ (ws ++ (renderInt n ++ rest))).map _ = _
  rw [same, readInteger_renderInt lowest highest above below ends]
  rfl

/-- Signed integers are kept. -/
theorem Codec.keeps_int64 (now : Timestamp) (n : Int64) :
    Codec.int64.Keeps now (.integer n.toInt) := by
  have low := n.le_toInt
  have high := n.toInt_lt
  exact keeps_integer (by decide) (by decide) (by rw [maxI64]; omega) (by rw [maxI64]; omega) now

/-- Unsigned integers are kept. -/
theorem Codec.keeps_uint64 (now : Timestamp) (n : UInt64) :
    Codec.uint64.Keeps now (.integer n.toNat) := by
  have high := n.toNat_lt
  exact keeps_integer (by decide) (by decide) (by omega) (by rw [maxU64]; omega) now

/-- Truth values are kept. -/
theorem Codec.keeps_flag (now : Timestamp) (b : Bool) : Codec.flag.Keeps now (.flag b) := by
  intro ws rest blanks _
  have written : (Codec.flag.write (.flag b)).renderChars = renderBool b := rfl
  rw [written, Codec.flag]
  dsimp only
  rw [skipSpace_blanks blanks]
  cases b <;> rfl

/-- Instants are kept. -/
theorem Codec.keeps_instant (now t : Timestamp) : Codec.instant.Keeps now (.instant t) := by
  intro ws rest blanks _
  have written : (Codec.instant.write (.instant t)).renderChars = renderText t.text := rfl
  rw [written, Codec.instant]
  dsimp only
  rw [readText_blanks blanks, readText_renderText]
  dsimp only
  rw [Timestamp.read?_text]

/-- A name that is one of the choice is kept. -/
theorem Codec.keeps_choice {names : List String} {name : String} (listed : name ∈ names)
    (now : Timestamp) : (Codec.choice names).Keeps now (.text name) := by
  intro ws rest blanks _
  have written : ((Codec.choice names).write (.text name)).renderChars = renderText name := rfl
  have read : readName names (renderText name ++ rest) = .ok (name, rest) := by
    rw [readName, readText_renderText]
    exact if_pos (List.contains_iff_mem.2 listed)
  rw [written]
  rw [renderText_eq, List.cons_append] at read ⊢
  rw [Codec.choice]
  dsimp only
  rw [skipSpace_front blanks rfl]
  show (readName names _).map _ = _
  rw [read]
  rfl

/-- A value that may be missing is kept when it is. -/
theorem Codec.keeps_null (c : Codec) (now : Timestamp) :
    (Codec.optional c).Keeps now .absent := by
  intro ws rest blanks _
  have written : ((Codec.optional c).write .absent).renderChars = ['n', 'u', 'l', 'l'] := rfl
  rw [written, Codec.optional]
  dsimp only
  rw [skipSpace_blanks blanks]
  rfl

/-- An optional value is taken if its text does not begin like `null`. -/
theorem Codec.Takes.optional {c : Codec} {now : Timestamp} {d : Datum} {first : Char}
    {more : List Char} (h : c.Takes now d (first :: more)) (plain : isSpace first = false)
    (notNull : first ≠ 'n') : (Codec.optional c).Takes now d (first :: more) := by
  intro ws rest blanks ends
  have read := h blanks_nil ends
  rw [Codec.optional]
  dsimp only
  rw [List.cons_append, skipSpace_front blanks plain]
  split
  · rename_i same
    exact absurd (List.cons.inj same).1 notNull
  · exact read

/-! ## Values that are carried -/

/-- A text that is cut off cannot be read. -/
theorem readText_cut {wanted s : String} {p : List Char} (cut : Cut p (renderText s)) :
    readText wanted p = .error .malformed := by
  rw [renderText_eq] at cut
  rcases cut.cons with rfl | ⟨q, rfl, behind⟩
  · rfl
  · rw [readText, skipSpace_cons (by decide)]
    exact textBody_cut behind

/-- Texts are carried. -/
theorem Codec.carries_text (now : Timestamp) (s : String) : Codec.text.Carries now (.text s) where
  read := (keeps_text now s).read
  cut cut _ _ h := by
    replace h : (readText _ _).map _ = _ := h
    rw [readText_cut cut] at h
    cases h

/-- A result that is mapped was a result before. -/
theorem exists_of_map_eq_ok {ε α β : Type} {f : α → β} {x : Except ε α} {b : β}
    (h : x.map f = .ok b) : ∃ a, x = .ok a ∧ f a = b := by
  rcases x with e | a
  · cases h
  · exact ⟨a, rfl, Except.ok.inj h⟩

/-- Signed integers are carried. -/
theorem Codec.carries_int64 (now : Timestamp) (n : Int64) :
    Codec.int64.Carries now (.integer n.toInt) where
  read := (keeps_int64 now n).read
  cut cut _ _ h := by
    obtain ⟨⟨m, left⟩, read, same⟩ := exists_of_map_eq_ok h
    rw [← (Prod.mk.inj same).2]
    exact readInteger_cut cut read

/-- Instants are carried. -/
theorem Codec.carries_instant (now : Timestamp) (t : Timestamp) :
    Codec.instant.Carries now (.instant t) where
  read := (keeps_instant now t).read
  cut cut _ _ read := by
    replace cut : Cut _ (renderText t.text) := cut
    rw [Codec.instant] at read
    dsimp only at read
    rw [readText_cut cut] at read
    cases read

/-- An optional value is carried if it is there, its JSON not beginning like `null`. -/
theorem Codec.Carries.optional {c : Codec} {now : Timestamp} {d : Datum} (h : c.Carries now d)
    (there : d ≠ .absent) {first : Char} {more : List Char}
    (text : (c.write d).renderChars = first :: more) (plain : isSpace first = false)
    (notNull : first ≠ 'n') : (Codec.optional c).Carries now d := by
  have written : (Codec.optional c).write d = c.write d := by
    cases d <;> first | rfl | exact absurd rfl there
  have readings (cs : List Char) :
      (Codec.optional c).read now (first :: cs) = c.read now (first :: cs) := by
    rw [Codec.optional]
    dsimp only
    rw [skipSpace_cons plain]
    split
    · rename_i same
      exact absurd (List.cons.inj same).1 notNull
    · rfl
  constructor
  · intro rest ends
    have read := h.read ends
    rw [written]
    rw [text, List.cons_append] at read ⊢
    rw [readings, read]
  · intro p cut d' rest read
    rw [written] at cut
    have inner : c.read now p = .ok (d', rest) := by
      have front := cut
      rw [text] at front
      rcases front.cons with rfl | ⟨q, rfl, -⟩
      · exact read
      · rw [readings] at read
        exact read
    exact h.cut cut inner

/-! ## Records -/

/-- The members of an object, `first` if none stands before them, with the closing brace. -/
def membersText (first : Bool) : List (String × Json) → List Char
  | [] => ['\x7d']
  | (k, v) :: ms =>
    (if first then [] else [',']) ++
      (renderText k ++ ':' :: (v.renderChars ++ membersText false ms))

/-- What follows the first member is written by the same rule as all. -/
theorem renderMembers_eq (ms : List (String × Json)) : renderMembers ms = membersText false ms := by
  induction ms with
  | nil => rw [renderMembers, membersText]
  | cons m ms ih =>
    rw [renderMembers, membersText, ih, if_neg Bool.false_ne_true]
    simp

/-- An object is written as a brace and its members. -/
theorem renderChars_object (ms : List (String × Json)) :
    (Json.object ms).renderChars = '\x7b' :: membersText true ms := by
  rcases ms with _ | ⟨⟨k, v⟩, ms⟩
  · rw [renderChars, membersText]
  · rw [renderChars, membersText, renderMembers_eq, if_pos rfl]
    simp

/-- What follows a value ends it. -/
theorem membersText_ends (ms : List (String × Json)) (rest : List Char) :
    Ends (membersText false ms ++ rest) := by
  intro c h
  rcases ms with _ | ⟨⟨k, v⟩, ms⟩
  · rw [membersText] at h
    cases h
    exact .inr rfl
  · rw [membersText, if_neg Bool.false_ne_true] at h
    cases h
    exact .inl rfl

/-- A part of what ends a value ends it too. -/
theorem Ends.of_cut {p rest : List Char} (cut : Cut p rest) (h : Ends rest) : Ends p := by
  obtain ⟨q, -, rfl⟩ := cut
  intro c hc
  refine h c ?_
  rcases p with _ | ⟨b, p⟩
  · cases hc
  · exact hc

/-- There are more characters than members. -/
theorem length_membersText (first : Bool) (ms : List (String × Json)) :
    ms.length < (membersText first ms).length := by
  induction ms generalizing first with
  | nil => simp [membersText]
  | cons m ms ih =>
    have := ih false
    simp only [membersText, List.length_append, List.length_cons]
    omega

/-- A value that is there, or whose field is never left out, is written. -/
theorem writeFields_shown {f : Field} {d : Datum} (shown : d ≠ .absent ∨ f.leftOut = false)
    (fs : List Field) (ds : List Datum) :
    writeFields (f :: fs) (d :: ds) = (f.name, f.codec.write d) :: writeFields fs ds := by
  rcases d with _ | s | n | b | t | ds'
  · rcases shown with none | shown
    · exact absurd rfl none
    · rw [writeFields, if_neg (by simp [shown])]
  all_goals rw [writeFields]; simp

/-- **What becomes of the values of a record.** The values of the fields, what reading puts into
their slots, and the members that are written: a field that is left out has an absent value, no
member, and an empty slot. -/
inductive Fits (now : Timestamp) :
    List Field → List Datum → Slots → List (String × Json) → Prop
  | nil : Fits now [] [] [] []
  | leftOut {f fs ds slots ms} (omits : f.leftOut = true) (missing : f.missing = .defaulted)
      (blank : f.codec.blank now = .absent) (more : Fits now fs ds slots ms) :
      Fits now (f :: fs) (.absent :: ds) (none :: slots) ms
  | written {f fs d ds slots ms} (shown : d ≠ .absent ∨ f.leftOut = false)
      (carried : f.codec.Carries now d) (more : Fits now fs ds slots ms) :
      Fits now (f :: fs) (d :: ds) (some d :: slots) ((f.name, f.codec.write d) :: ms)

namespace Fits

variable {now : Timestamp} {fields fs : List Field} {ds : List Datum} {slots : Slots}
  {ms : List (String × Json)}

/-- The fields write the members that fit them. -/
theorem writeFields (h : Fits now fs ds slots ms) : writeFields fs ds = ms := by
  induction h with
  | nil => rfl
  | leftOut omits _ _ _ ih => rw [Json.writeFields, if_pos omits, ih]
  | written shown _ _ ih => rw [writeFields_shown shown, ih]

/-- The slots give the values that fit the fields. -/
theorem fillSlots (h : Fits now fs ds slots ms) : fillSlots now fs slots = .ok ds := by
  induction h with
  | nil => rfl
  | leftOut _ missing blank _ ih =>
    rw [Json.fillSlots, missing]
    · dsimp only
      rw [ih, blank]
      rfl
    · simp
  | written _ _ _ ih => rw [Json.fillSlots, ih]; rfl

end Fits

/-! ## Reading the members -/

/-- A field with a new name is looked for behind the others. -/
theorem findField_skip {name : String} {done : List Field} (fs : List Field)
    (new : name ∉ done.map Field.name) (i : ℕ) :
    findField name (done ++ fs) i = findField name fs (i + done.length) := by
  induction done generalizing i with
  | nil => rfl
  | cons f done ih =>
    rw [List.map_cons, List.mem_cons, not_or] at new
    rw [List.cons_append, findField, if_neg (Ne.symm new.1), ih new.2, List.length_cons]
    congr 1
    omega

/-- A field is found behind those of other names. -/
theorem findField_behind {f : Field} {done fs : List Field}
    (distinct : ((done ++ f :: fs).map Field.name).Nodup) :
    findField f.name (done ++ f :: fs) 0 = some (done.length, f) := by
  have new : f.name ∉ done.map Field.name := by
    rw [List.map_append, List.map_cons] at distinct
    intro old
    exact (List.nodup_append.1 distinct).2.2 _ old _ (List.mem_cons_self ..) rfl
  rw [findField_skip _ new, findField, if_pos rfl, Nat.zero_add]

/-- The members of an object do not end without its brace. -/
theorem readMembers_nil (fields : List Field) (now : Timestamp) (fuel : ℕ) (first : Bool)
    (slots : Slots) : readMembers fields now fuel first slots [] = .error .malformed := by
  cases fuel <;> simp [readMembers, skipSpace]

/-- Where the quote of a key is missing, the members are refused. -/
theorem readMembers_keyless {fields : List Field} {now : Timestamp} {fuel : ℕ} {first : Bool}
    {slots : Slots} : ∃ e,
      readMembers fields now fuel first slots (if first then [] else [',']) = .error e := by
  cases first with
  | true => exact ⟨_, readMembers_nil ..⟩
  | false =>
    rcases fuel with _ | fuel
    · exact ⟨_, by rw [readMembers]⟩
    · have comma : skipSpace [','] = [','] := skipSpace_cons (by decide)
      rw [if_neg Bool.false_ne_true, readMembers, comma]
      exact ⟨_, rfl⟩

/-- The members begin with a member, whose opening quote is taken, where there is one. -/
theorem readMembers_cons {fields : List Field} {now : Timestamp} {fuel : ℕ} {first : Bool}
    {slots : Slots} (cs : List Char) :
    readMembers fields now (fuel + 1) first slots ((if first then [] else [',']) ++ '"' :: cs) =
      readMembers.member fields now fuel slots cs := by
  have quote : skipSpace ('"' :: cs) = '"' :: cs := skipSpace_cons (by decide)
  cases first with
  | true => rw [if_pos rfl, List.nil_append, readMembers, quote]; rfl
  | false =>
    have comma : skipSpace (',' :: '"' :: cs) = ',' :: '"' :: cs := skipSpace_cons (by decide)
    rw [if_neg Bool.false_ne_true, List.singleton_append, readMembers, comma]
    simp only [Bool.false_eq_true, if_false, quote]

/-- A member whose field has an empty slot is read by the codec of the field. -/
theorem member_field {fields : List Field} {now : Timestamp} {fuel i : ℕ} {slots : Slots}
    {f : Field} (found : findField f.name fields 0 = some (i, f)) (empty : slots[i]?.join = none)
    (cs : List Char) :
    readMembers.member fields now fuel slots (quoted f.name.toList ++ ':' :: cs) =
      match f.codec.read now cs with
      | .error e => .error (e.under (.member f.name))
      | .ok (d, rest) => readMembers fields now fuel false (slots.set i (some d)) rest := by
  rw [readMembers.member, textBody_quoted]
  dsimp only
  rw [found]
  dsimp only
  rw [empty, skipSpace_cons (by decide)]
  rfl

/-- Without its colon a member is refused. -/
theorem member_end {fields : List Field} {now : Timestamp} {fuel i : ℕ} {slots : Slots}
    {f : Field} (found : findField f.name fields 0 = some (i, f)) (empty : slots[i]?.join = none) :
    readMembers.member fields now fuel slots (quoted f.name.toList) = .error .malformed := by
  have body := textBody_quoted f.name []
  rw [List.append_nil] at body
  rw [readMembers.member, body]
  dsimp only
  rw [found]
  dsimp only
  rw [empty]
  rfl

/-- The slot of the field that is next is empty, and is the one that the field fills. -/
theorem slot_next (pre more : Slots) (d : Datum) :
    (pre ++ none :: more)[pre.length]?.join = none ∧
      (pre ++ none :: more).set pre.length (some d) = pre ++ [some d] ++ more := by
  constructor
  · rw [List.getElem?_append_right (Nat.le_refl _), Nat.sub_self]
    rfl
  · rw [List.set_append_right _ _ (Nat.le_refl _), Nat.sub_self, List.set_cons_zero,
      List.append_assoc]
    rfl

namespace Fits

variable {now : Timestamp} {fields fs : List Field} {ds : List Datum} {slots : Slots}
  {ms : List (String × Json)}

/-- **The members of a record are read back.** The fields `done` have had their turn and have
left `pre` in their slots. -/
theorem readMembers (h : Fits now fs ds slots ms) (done : List Field) (pre : Slots)
    (all : fields = done ++ fs) (distinct : (fields.map Field.name).Nodup)
    (filled : pre.length = done.length) (fuel : ℕ) (enough : ms.length < fuel) (first : Bool)
    (rest : List Char) :
    Json.readMembers fields now fuel first (pre ++ fs.map fun _ => none)
      (membersText first ms ++ rest) = .ok (pre ++ slots, rest) := by
  induction h generalizing done pre fuel first with
  | nil =>
    obtain ⟨fuel, rfl⟩ := Nat.exists_eq_add_of_lt enough
    have brace : skipSpace ('\x7d' :: rest) = '\x7d' :: rest := skipSpace_cons (by decide)
    rw [membersText, List.singleton_append, Json.readMembers, brace]
    rfl
  | @leftOut f fs ds slots ms _ _ _ _ ih =>
    have later := ih (done ++ [f]) (pre ++ [none]) (by rw [all]; simp) (by simp [filled]) fuel
      enough first
    simpa using later
  | @written f fs d ds slots ms _ carried _ ih =>
    obtain ⟨fuel, rfl⟩ : ∃ k, fuel = k + 1 := ⟨fuel - 1, by omega⟩
    have found : findField f.name fields 0 = some (pre.length, f) := by
      rw [filled, all]
      exact findField_behind (all ▸ distinct)
    obtain ⟨empty, set⟩ := slot_next pre (fs.map fun _ => none) d
    have later := ih (done ++ [f]) (pre ++ [some d]) (by rw [all]; simp) (by simp [filled]) fuel
      (by simpa using enough) false
    have text : membersText first ((f.name, f.codec.write d) :: ms) ++ rest =
        (if first then [] else [',']) ++ '"' :: (quoted f.name.toList ++
          ':' :: ((f.codec.write d).renderChars ++ (membersText false ms ++ rest))) := by
      rw [membersText, renderText_eq]
      simp
    rw [text, readMembers_cons, List.map_cons, member_field found empty,
      carried.read (membersText_ends ms rest)]
    dsimp only
    rw [set, later, List.append_assoc, List.singleton_append]

/-- **Members that are cut off are refused**, wherever the cut is. -/
theorem readMembers_cut (h : Fits now fs ds slots ms) (done : List Field) (pre : Slots)
    (all : fields = done ++ fs) (distinct : (fields.map Field.name).Nodup)
    (filled : pre.length = done.length) (fuel : ℕ) (first : Bool) {p : List Char}
    (cut : Cut p (membersText first ms)) :
    ∃ e, Json.readMembers fields now fuel first (pre ++ fs.map fun _ => none) p = .error e := by
  induction h generalizing done pre fuel first p with
  | nil =>
    rcases cut.cons with rfl | ⟨q, rfl, none⟩
    · exact ⟨_, readMembers_nil ..⟩
    · exact absurd none Cut.not_nil
  | @leftOut f fs ds slots ms _ _ _ _ ih =>
    have later := ih (done ++ [f]) (pre ++ [none]) (by rw [all]; simp) (by simp [filled]) fuel
      first cut
    simpa using later
  | @written f fs d ds slots ms _ carried _ ih =>
    rcases fuel with _ | fuel
    · exact ⟨_, by rw [Json.readMembers]⟩
    have found : findField f.name fields 0 = some (pre.length, f) := by
      rw [filled, all]
      exact findField_behind (all ▸ distinct)
    obtain ⟨empty, set⟩ := slot_next pre (fs.map fun _ => none) d
    have text : membersText first ((f.name, f.codec.write d) :: ms) =
        (if first then [] else [',']) ++ '"' :: (quoted f.name.toList ++
          ':' :: ((f.codec.write d).renderChars ++ membersText false ms)) := by
      rw [membersText, renderText_eq]
      simp
    -- the cut is before the quote, in the name, before the colon, in the value or behind it
    rw [text] at cut
    rw [List.map_cons]
    rcases cut.append with before | ⟨p, rfl, quote⟩
    · have none : p = [] := by
        cases first with
        | true => exact absurd before Cut.not_nil
        | false =>
          rcases before.cons with none | ⟨q, -, none⟩
          · exact none
          · exact absurd none Cut.not_nil
      rw [none]
      exact ⟨_, readMembers_nil ..⟩
    rcases quote.cons with rfl | ⟨p, rfl, name⟩
    · rw [List.append_nil]
      exact readMembers_keyless
    rw [readMembers_cons]
    rcases name.append with within | ⟨p, rfl, colon⟩
    · exact ⟨_, by rw [Json.readMembers.member, textBody_cut within]⟩
    rcases colon.cons with rfl | ⟨p, rfl, value⟩
    · rw [List.append_nil]
      exact ⟨_, member_end found empty⟩
    rw [member_field found empty]
    rcases value.append with within | ⟨p, rfl, behind⟩
    · rcases read : f.codec.read now p with e | ⟨d', rest⟩
      · exact ⟨_, rfl⟩
      · rw [carried.cut within read]
        exact ⟨_, readMembers_nil ..⟩
    · have ends : Ends (membersText false ms) := by
        simpa using membersText_ends ms []
      have later := ih (done ++ [f]) (pre ++ [some d]) (by rw [all]; simp) (by simp [filled])
        fuel false behind
      rw [carried.read (ends.of_cut behind)]
      dsimp only
      rw [set]
      exact later

end Fits

/-! ## Records as a whole -/

/-- The JSON of a record of fitting values. -/
theorem renderChars_record {now : Timestamp} {title : String} {fields : List Field}
    {ds : List Datum} {slots : Slots} {ms : List (String × Json)}
    (h : Fits now fields ds slots ms) :
    ((Codec.record title fields).write (.record ds)).renderChars =
      '\x7b' :: membersText true ms := by
  rw [Codec.record]
  dsimp only
  rw [h.writeFields, renderChars_object]

/-- A record is read member by member behind its brace. -/
theorem read_object {title : String} {fields : List Field} {now : Timestamp} (cs : List Char) :
    (Codec.record title fields).read now ('\x7b' :: cs) =
      match readMembers fields now (cs.length + 1) true (fields.map fun _ => none) cs with
      | .error e => .error e
      | .ok (slots, rest) => (fillSlots now fields slots).map fun ds => (.record ds, rest) := by
  have brace : skipSpace ('\x7b' :: cs) = '\x7b' :: cs := skipSpace_cons (by decide)
  rw [Codec.record]
  dsimp only
  rw [readRecord, brace]
  rfl

/-- A record that is cut off is refused, whatever is cut off it. -/
theorem readRecord_cut {now : Timestamp} {title : String} {fields : List Field}
    {ds : List Datum} {slots : Slots} {ms : List (String × Json)} (h : Fits now fields ds slots ms)
    (distinct : (fields.map Field.name).Nodup) {p : List Char}
    (cut : Cut p ((Codec.record title fields).write (.record ds)).renderChars) :
    ∃ e, (Codec.record title fields).read now p = .error e := by
  rw [renderChars_record h] at cut
  rcases cut.cons with rfl | ⟨q, rfl, behind⟩
  · exact ⟨_, rfl⟩
  · obtain ⟨e, refused⟩ := h.readMembers_cut [] [] rfl distinct rfl (q.length + 1) true behind
    replace refused : readMembers fields now (q.length + 1) true (fields.map fun _ => none) q =
        .error e := refused
    rw [read_object, refused]
    exact ⟨_, rfl⟩

/-- **A record is carried by the codecs of its fields.** -/
theorem Codec.carries_record {now : Timestamp} (title : String) {fields : List Field}
    {ds : List Datum} {slots : Slots} {ms : List (String × Json)} (h : Fits now fields ds slots ms)
    (distinct : (fields.map Field.name).Nodup) :
    (Codec.record title fields).Carries now (.record ds) where
  read {rest} _ := by
    have length := length_membersText true ms
    have members := h.readMembers [] [] rfl distinct rfl ((membersText true ms ++ rest).length + 1)
      (by rw [List.length_append]; omega) true rest
    replace members : readMembers fields now ((membersText true ms ++ rest).length + 1) true
        (fields.map fun _ => none) (membersText true ms ++ rest) = .ok (slots, rest) := members
    rw [renderChars_record h, List.cons_append, read_object, members]
    dsimp only
    rw [h.fillSlots]
    rfl
  cut cut _ _ read := by
    obtain ⟨e, refused⟩ := readRecord_cut h distinct cut
    rw [refused] at read
    cases read

end Json
end Casework
