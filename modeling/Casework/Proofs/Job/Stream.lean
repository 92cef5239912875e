/-
# A job stream, cut into chunks or cut off

The reader of a stream sees chunks, the writer wrote lines. What `next` gives depends on the
bytes alone, not on where the chunks end (`next_line`, `next_last`), and the frame of a
descriptor is one line: its JSON has no line feed. So a stream delivers what was sent, however it
was cut into chunks, and what is delivered of a stream that ended early is what was sent first
(`results_sent`).

| bytes left | answer | answers after it |
| --- | --- | --- |
| whole frames | the descriptors in their order | the end |
| a frame without its line feed | its descriptor, or an error if the connection broke | the end |
| less of a frame | an error | the end |
-/

import Mathlib.Data.List.Basic
import Mathlib.Data.List.TakeWhile
import Casework.Job.Stream
import Casework.Proofs.Job.Message

namespace Casework

open Text

/-! ## The frame of a descriptor -/

namespace JobDescriptor

/-- A descriptor is written without a line feed, so its frame is one line. -/
theorem frame_line (d : JobDescriptor) : (0x0A : UInt8) ∉ utf8Bytes (Wire.render d) := by
  intro h
  obtain ⟨c, there, byte⟩ := List.mem_flatMap.1 h
  rw [mem_encodeChar byte, Wire.render, Json.render, String.toList_ofList] at there
  exact Json.newline_renderChars _ there

/-- The line of a frame has no carriage return at its end. -/
theorem chomp_frame (d : JobDescriptor) :
    JobStream.chomp (utf8Bytes (Wire.render d)) = utf8Bytes (Wire.render d) := by
  obtain ⟨middle, text⟩ := (d.recorded .epoch).renderChars_toJson
  have brace : encodeChar '\x7d' = [0x7D] := by decide
  have bytes : utf8Bytes (Wire.render d) = encodeChars ('\x7b' :: middle) ++ [0x7D] := by
    rw [utf8Bytes, Wire.render, Json.render, String.toList_ofList, text, ← List.cons_append,
      encodeChars, List.flatMap_append, List.flatMap_singleton, brace, encodeChars]
  rw [JobStream.chomp, bytes, List.getLast?_concat, if_neg (by decide)]

/-- The line of a frame is read as its descriptor. -/
theorem readLine_frame (now : Timestamp) (d : JobDescriptor) :
    JobStream.readLine now (utf8Bytes (Wire.render d)) = .ok (some d) := by
  obtain ⟨middle, text⟩ := (d.recorded now).renderChars_toJson
  have solid : (trimChars (Wire.render d).toList).isEmpty = false := by
    rw [Wire.render, Json.render, String.toList_ofList, text, trimChars,
      Timestamp.trimStart_cons (by decide), trimEnd, List.isEmpty_eq_false_iff]
    intro h
    rw [List.reverse_eq_nil_iff, List.dropWhile_eq_nil_iff] at h
    exact absurd (h '\x7b' (by simp)) (by decide)
  rw [JobStream.readLine, decode?_utf8Bytes]
  dsimp only
  rw [solid, if_neg Bool.false_ne_true, (d.recorded now).parse_render d.ofDatum?_toDatum]

/-- A part of the line of a frame is read as nothing, or refused. -/
theorem readLine_cut (now : Timestamp) {d : JobDescriptor} {p : List UInt8}
    (cut : Cut p (utf8Bytes (Wire.render d))) :
    JobStream.readLine now p = .ok none ∨ ∃ e, JobStream.readLine now p = .error e := by
  rw [JobStream.readLine]
  rcases read : decode? p with _ | t
  · exact .inr ⟨_, rfl⟩
  · dsimp only
    split
    · exact .inl rfl
    · obtain ⟨q, ne, bytes⟩ := cut
      obtain ⟨front, same⟩ := decode?_prefix ⟨q, bytes⟩ read
      have part : Cut t.toList (Wire.render d).toList := by
        rcases Cut.of_prefix front with whole | part
        · rw [same, utf8Bytes, whole, ← utf8Bytes] at bytes
          exact absurd (List.append_right_eq_self.1 bytes) ne
        · exact part
      obtain ⟨e, refused⟩ := (d.recorded now).parse_cut part
      rw [refused]
      exact .inr ⟨_, rfl⟩

end JobDescriptor

/-! ## One reading -/

/-- What lacks the end of a text still lacks it when a carriage return is dropped. -/
theorem Cut.chomp {p whole : List UInt8} (cut : Cut p whole) : Cut (JobStream.chomp p) whole := by
  rw [JobStream.chomp]
  split
  · rename_i last
    obtain ⟨q, ne, rfl⟩ := cut
    refine ⟨0x0D :: q, List.cons_ne_nil _ _, ?_⟩
    obtain ⟨front, rfl⟩ := List.getLast?_eq_some_iff.1 last
    simp
  · exact cut

namespace JobStream

/-- The bytes of a stream that have not been read. -/
def bytes (s : JobStream) : List UInt8 := s.held ++ s.chunks.flatten

/-- The first line ends at the first line feed. -/
theorem splitLine_append {line rest : List UInt8} (h : 0x0A ∉ line) :
    splitLine (line ++ 0x0A :: rest) = some (line, rest) := by
  induction line with
  | nil => rfl
  | cons b line ih =>
    rw [List.mem_cons, not_or] at h
    rw [List.cons_append, splitLine, if_neg (Ne.symm h.1), ih h.2]
    rfl

/-- Without a line feed there is no whole line. -/
theorem splitLine_none {bs : List UInt8} (h : 0x0A ∉ bs) : splitLine bs = none := by
  induction bs with
  | nil => rfl
  | cons b bs ih =>
    rw [List.mem_cons, not_or] at h
    rw [splitLine, if_neg (Ne.symm h.1), ih h.2]
    rfl

/-- A line that is complete stays the line at the front, whatever arrives. -/
theorem splitLine_more {bs line rest : List UInt8} (h : splitLine bs = some (line, rest))
    (more : List UInt8) : splitLine (bs ++ more) = some (line, rest ++ more) := by
  induction bs generalizing line with
  | nil => cases h
  | cons b bs ih =>
    rw [splitLine] at h
    rw [List.cons_append, splitLine]
    split at h
    · rename_i feed
      rw [if_pos feed]
      cases h
      rfl
    · rename_i other
      obtain ⟨⟨l, r⟩, split, same⟩ := Option.map_eq_some_iff.1 h
      cases same
      rw [if_neg other, ih split]
      rfl

/-- A line is taken off the bytes, wherever the chunks end. -/
theorem takeLine_line (broken : Bool) {held : List UInt8} {chunks : List (List UInt8)}
    {line rest : List UInt8} (h : splitLine (held ++ chunks.flatten) = some (line, rest)) :
    ∃ t : JobStream, takeLine held chunks broken = (.line line, t) ∧ t.bytes = rest ∧
      t.broken = broken := by
  induction chunks generalizing held with
  | nil =>
    rw [List.flatten_nil, List.append_nil] at h
    rw [takeLine, h]
    exact ⟨_, rfl, List.append_nil _, rfl⟩
  | cons chunk chunks ih =>
    rw [takeLine]
    rcases split : splitLine held with _ | ⟨l, r⟩
    · rw [List.flatten_cons, ← List.append_assoc] at h
      exact ih h
    · rw [splitLine_more split] at h
      cases h
      exact ⟨_, rfl, rfl, rfl⟩

/-- Without a line feed the last line is what is left when the connection is closed. -/
theorem takeLine_last (broken : Bool) {held : List UInt8} {chunks : List (List UInt8)}
    (h : splitLine (held ++ chunks.flatten) = none) :
    takeLine held chunks broken =
      (if broken then .failed
        else if (held ++ chunks.flatten).isEmpty then .finished
        else .line (held ++ chunks.flatten), {}) := by
  induction chunks generalizing held with
  | nil =>
    rw [List.flatten_nil, List.append_nil] at h ⊢
    rw [takeLine, h]
    dsimp only
    split
    · rfl
    · split <;> rfl
  | cons chunk chunks ih =>
    rw [takeLine]
    rcases split : splitLine held with _ | ⟨l, r⟩
    · rw [List.flatten_cons, ← List.append_assoc] at h ⊢
      exact ih h
    · rw [splitLine_more split] at h
      cases h

/-- A reading looks at one line, and at the next one if it is blank. -/
theorem next_eq (now : Timestamp) (s : JobStream) :
    next now s =
      match takeLine s.held s.chunks s.broken with
      | (.finished, t) => (.ok none, t)
      | (.failed, t) => (.error (readFailure "connection broken"), t)
      | (.line line, t) =>
        match readLine now (chomp line) with
        | .error e => (.error e, t)
        | .ok (some d) => (.ok (some d), t)
        | .ok none => next now t := by
  rw [next]
  split
  · rename_i taken
    simp only [taken]
  · rename_i taken
    simp only [taken]
  · rename_i line t taken
    rcases read : readLine now (chomp line) with e | _ | d <;> simp only [taken, read]

/-- The next descriptor is that of the line at the front of the bytes. -/
theorem next_line {now : Timestamp} {s : JobStream} {line rest : List UInt8} {d : JobDescriptor}
    (split : splitLine s.bytes = some (line, rest))
    (read : readLine now (chomp line) = .ok (some d)) :
    ∃ t : JobStream, next now s = (.ok (some d), t) ∧ t.bytes = rest ∧ t.broken = s.broken := by
  obtain ⟨t, taken, left, same⟩ := takeLine_line s.broken split
  refine ⟨t, ?_, left, same⟩
  rw [next_eq, taken]
  dsimp only
  rw [read]

/-- An empty line carries no job. -/
theorem readLine_nil (now : Timestamp) : readLine now (chomp []) = .ok none := by
  have none : decode? [] = some "" := decode?_utf8Bytes ""
  show readLine now [] = _
  rw [readLine, none]
  rfl

/-- A stream that is used up has no next job. -/
theorem next_over (now : Timestamp) : next now {} = (.ok none, {}) := by
  have nothing : takeLine [] [] false = (.finished, {}) := by
    rw [takeLine]
    rfl
  rw [next_eq]
  dsimp only
  rw [nothing]

/-- What the last line gives; after it the stream is over. -/
theorem next_last (now : Timestamp) (s : JobStream) (split : splitLine s.bytes = none) :
    next now s =
      (if s.broken then .error (readFailure "connection broken")
        else readLine now (chomp s.bytes), {}) := by
  have taken := takeLine_last s.broken split
  rw [next_eq, taken]
  cases s.broken with
  | true => rfl
  | false =>
    rw [if_neg Bool.false_ne_true, if_neg Bool.false_ne_true]
    rcases empty : (s.held ++ s.chunks.flatten).isEmpty with _ | _
    · rw [if_neg Bool.false_ne_true]
      dsimp only
      rw [bytes]
      rcases readLine now (chomp (s.held ++ s.chunks.flatten)) with e | _ | d
      · rfl
      · exact next_over now
      · rfl
    · rw [if_pos rfl, bytes, List.isEmpty_iff.1 empty, readLine_nil]

/-! ## Repeated reading -/

/-- What repeated reading of a stream gives, once for each time of day. -/
def results : List Timestamp → JobStream → List (Except Error (Option JobDescriptor))
  | [], _ => []
  | now :: times, s => (next now s).1 :: results times (next now s).2

/-- The answer that hands out a descriptor. -/
def sent (d : JobDescriptor) : Except Error (Option JobDescriptor) := .ok (some d)

/-- Where nothing is left, reading finds the end again and again. -/
theorem results_over (times : List Timestamp) :
    results times {} = [].takeD times.length (.ok none) := by
  induction times with
  | nil => rfl
  | cons now times ih =>
    rw [results, next_over, ih]
    rfl

/-- A frame is read as its descriptor. -/
theorem next_frame {s : JobStream} {d : JobDescriptor} {rest : List UInt8}
    (h : s.bytes = d.frame ++ rest) (now : Timestamp) :
    ∃ t : JobStream, next now s = (sent d, t) ∧ t.bytes = rest ∧ t.broken = s.broken := by
  have line : splitLine s.bytes = some (utf8Bytes (Wire.render d), rest) := by
    rw [h, JobDescriptor.frame, List.append_assoc]
    exact splitLine_append d.frame_line
  have read := d.readLine_frame now
  rw [← d.chomp_frame] at read
  exact next_line line read

/-- Whole frames are read as their descriptors, one after the other, and then the end is found. -/
theorem results_whole {ds : List JobDescriptor} {s : JobStream}
    (whole : s.bytes = ds.flatMap JobDescriptor.frame) (closed : s.broken = false)
    (times : List Timestamp) :
    results times s = (ds.map sent).takeD times.length (.ok none) := by
  induction times generalizing ds s with
  | nil => rfl
  | cons now times ih =>
    rcases ds with _ | ⟨d, ds⟩
    · have empty : s.bytes = [] := whole
      have last := next_last now s (by rw [empty]; rfl)
      rw [closed, if_neg Bool.false_ne_true, empty, readLine_nil] at last
      rw [results, last, results_over]
      rfl
    · obtain ⟨t, read, left, same⟩ := next_frame whole now
      rw [results, read, ih left (same.trans closed)]
      rfl

/-- Less than a frame is read as nothing, refused, or read as its descriptor. -/
theorem next_cut {s : JobStream} {d : JobDescriptor} (cut : Cut s.bytes d.frame)
    (now : Timestamp) : ∃ answer, next now s = (answer, {}) ∧
      (answer = .ok none ∨ answer = sent d ∨ ∃ e, answer = .error e) := by
  have line : s.bytes = utf8Bytes (Wire.render d) ∨ Cut s.bytes (utf8Bytes (Wire.render d)) := by
    rcases cut.append with part | ⟨p, whole, feed⟩
    · exact .inr part
    · rcases feed.cons with none | ⟨q, -, none⟩
      · exact .inl (by rw [whole, none, List.append_nil])
      · exact absurd none Cut.not_nil
  have unfinished : 0x0A ∉ s.bytes := by
    rcases line with whole | part
    · rw [whole]
      exact d.frame_line
    · intro h
      exact d.frame_line (part.subset h)
  refine ⟨_, next_last now s (splitLine_none unfinished), ?_⟩
  split
  · exact .inr (.inr ⟨_, rfl⟩)
  · rcases line with whole | part
    · rw [whole, d.chomp_frame, d.readLine_frame]
      exact .inr (.inl rfl)
    · rcases JobDescriptor.readLine_cut now part.chomp with nothing | refused
      · exact .inl nothing
      · exact .inr (.inr refused)

/-- Of a stream that ended early the first descriptors are read, all of those that arrived whole
among them, and then the end is found, at once or after one error. -/
theorem results_prefix {ds : List JobDescriptor} {s : JobStream}
    (front : s.bytes <+: ds.flatMap JobDescriptor.frame) (times : List Timestamp) :
    ∃ k faults, (∀ m ≤ ds.length, (ds.take m).flatMap JobDescriptor.frame <+: s.bytes → m ≤ k) ∧
      (faults = [] ∨ ∃ e, faults = [.error e]) ∧
      results times s = ((ds.take k).map sent ++ faults).takeD times.length (.ok none) := by
  induction times generalizing ds s with
  | nil => exact ⟨ds.length, [], fun m h _ => h, .inl rfl, rfl⟩
  | cons now times ih =>
    rcases ds with _ | ⟨d, ds⟩
    · have empty : s.bytes = [] := List.prefix_nil.1 front
      have last := next_last now s (by rw [empty]; rfl)
      rw [empty, readLine_nil] at last
      rw [results, last, results_over]
      cases s.broken with
      | true => exact ⟨0, [.error _], fun m h _ => h, .inr ⟨_, rfl⟩, rfl⟩
      | false => exact ⟨0, [], fun m h _ => h, .inl rfl, rfl⟩
    · rw [List.flatMap_cons] at front
      have frames : (∃ rest, s.bytes = d.frame ++ rest ∧ rest <+: ds.flatMap JobDescriptor.frame) ∨
          Cut s.bytes d.frame := by
        rcases Cut.of_prefix front with whole | cut
        · exact .inl ⟨_, whole, List.prefix_rfl⟩
        · rcases cut.append with part | ⟨rest, whole, more, -, later⟩
          · exact .inr part
          · exact .inl ⟨rest, whole, more, later⟩
      rcases frames with ⟨rest, whole, later⟩ | part
      · obtain ⟨t, read, left, -⟩ := next_frame whole now
        rw [← left] at later
        obtain ⟨k, faults, all, fault, more⟩ := ih later
        refine ⟨k + 1, faults, ?_, fault, ?_⟩
        · rintro (_ | m) short arrived
          · exact Nat.zero_le _
          · rw [List.take_succ_cons, List.flatMap_cons, whole,
              List.prefix_append_right_inj] at arrived
            exact Nat.succ_le_succ (all m (Nat.le_of_succ_le_succ short) (left ▸ arrived))
        · rw [results, read, more]
          rfl
      · have none (k m : ℕ) (arrived : ((d :: ds).take m).flatMap JobDescriptor.frame <+: s.bytes) :
            m ≤ k := by
          rcases m with _ | m
          · exact Nat.zero_le k
          · rw [List.take_succ_cons, List.flatMap_cons] at arrived
            have long := arrived.length_le
            have short := part.length_lt
            rw [List.length_append] at long
            omega
        obtain ⟨answer, read, answers⟩ := next_cut part now
        rw [results, read, results_over]
        rcases answers with rfl | rfl | ⟨e, rfl⟩
        · exact ⟨0, [], fun m _ => none 0 m, .inl rfl, rfl⟩
        · exact ⟨1, [], fun m _ => none 1 m, .inl rfl, rfl⟩
        · exact ⟨0, [.error e], fun m _ => none 0 m, .inr ⟨e, rfl⟩, rfl⟩

/-- **A stream delivers what was sent.** However the frames of descriptors are cut into chunks,
reading gives the descriptors in their order and then the end, again and again. If the bytes stop
anywhere, at a close of the connection or because it broke, reading gives the first of the
descriptors, all of those whose frames came whole among them, and then the end, with at most one
error before it: nothing is read that was not sent. -/
theorem results_sent (ds : List JobDescriptor) (chunks : List (List UInt8))
    (times : List Timestamp) :
    (chunks.flatten = ds.flatMap JobDescriptor.frame →
      results times ⟨[], chunks, false⟩ = (ds.map sent).takeD times.length (.ok none)) ∧
    ∀ broken, chunks.flatten <+: ds.flatMap JobDescriptor.frame →
      ∃ k faults,
        (∀ m ≤ ds.length, (ds.take m).flatMap JobDescriptor.frame <+: chunks.flatten → m ≤ k) ∧
        (faults = [] ∨ ∃ e, faults = [.error e]) ∧
        results times ⟨[], chunks, broken⟩ =
          ((ds.take k).map sent ++ faults).takeD times.length (.ok none) := by
  constructor
  · intro whole
    exact results_whole (s := ⟨[], chunks, false⟩) whole rfl times
  · intro broken front
    exact results_prefix (s := ⟨[], chunks, broken⟩) front times

/-- The statement at one sign of life: its frame arrives in two chunks, or the connection breaks
after the first of them. -/
theorem results_sent_keepAlive :
    results [.epoch, .epoch] ⟨[], [(JobDescriptor.keepAlive "w").frame.take 9,
        (JobDescriptor.keepAlive "w").frame.drop 9], false⟩ =
      [sent (.keepAlive "w"), .ok none] ∧
    ∃ k faults, (faults = [] ∨ ∃ e, faults = [.error e]) ∧
      results [.epoch, .epoch] ⟨[], [(JobDescriptor.keepAlive "w").frame.take 9], true⟩ =
        (([JobDescriptor.keepAlive "w"].take k).map sent ++ faults).takeD 2 (.ok none) := by
  constructor
  · exact (results_sent [.keepAlive "w"] [(JobDescriptor.keepAlive "w").frame.take 9,
      (JobDescriptor.keepAlive "w").frame.drop 9] [.epoch, .epoch]).1 (by simp)
  · obtain ⟨k, faults, -, fault, read⟩ := (results_sent [.keepAlive "w"]
      [(JobDescriptor.keepAlive "w").frame.take 9] [.epoch, .epoch]).2 true (by
        simpa using List.take_prefix 9 (JobDescriptor.keepAlive "w").frame)
    exact ⟨k, faults, fault, read⟩

end JobStream
end Casework
