/-
# A job stream, line by line

The bytes of a stream that read as a text are read line by line, and each line is read on its own:

| line | what it gives |
| --- | --- |
| is blank | nothing, the next line is looked at |
| is a descriptor | that descriptor |
| is anything else | one error |

After the last line the end is found, again and again.  A reading takes lines off the stream up to
the first that is not blank (`Left.next`), whatever chunks they came in, so repeated reading gives
the answers to these lines in their order (`Left.results_eq`).  A line that cannot be read takes the
place of one answer and moves no other (`answered_line_by_line`).
-/

import Casework.Proofs.Job.Stream
import Casework.Proofs.Text.Percent
import Casework.Proofs.Text.Pieces

namespace Casework

open Text

namespace JobStream

/-! ## Lines of a text -/

/-- A line without the carriage return at its end. -/
def withoutReturn (cs : List Char) : List Char :=
  if cs.getLast? = some '\r' then cs.dropLast else cs

/-- What stands between the line feeds of a text. What follows the last one counts if it is not
empty. -/
def linePieces (cs : List Char) : List (List Char) :=
  if (splitChars '\n' cs).getLast? = some [] then (splitChars '\n' cs).dropLast
  else splitChars '\n' cs

/-- The lines of a text. -/
def linesOf (text : String) : List String :=
  (linePieces text.toList).map fun piece => String.ofList (withoutReturn piece)

/-- The line has blanks only. -/
def isBlankLine (line : String) : Bool := line.toList.all isBlank

/-- The lines of a text that are not blank. -/
def solidLines (text : String) : List String := (linesOf text).filter fun line => !isBlankLine line

/-- What a line that is not blank gives: its descriptor, or an error. -/
def answerTo (now : Timestamp) (line : String) : Except Error (Option JobDescriptor) :=
  match Wire.parse now line with
  | .ok d => sent d
  | .error fault => .error (.transport ("undecodable job descriptor: " ++ faultText fault))

/-- The bytes of a text in one chunk, and then the end. -/
def ofText (text : String) : JobStream := ⟨[], [utf8Bytes text], false⟩

variable {s : JobStream} {cs : List Char} {lines : List String}

/-- A line feed ends a piece. -/
theorem linePieces_append (cs rest : List Char) :
    linePieces (cs ++ '\n' :: rest) = splitChars '\n' cs ++ linePieces rest := by
  have some_piece := splitChars_ne_nil '\n' rest
  rw [linePieces, splitChars_append, List.getLast?_append_of_ne_nil _ some_piece,
    List.dropLast_append_of_ne_nil some_piece, linePieces]
  split <;> rfl

/-- Without a line feed there is one piece, or none. -/
theorem linePieces_of_not_mem (free : '\n' ∉ cs) :
    linePieces cs = if cs = [] then [] else [cs] := by
  rw [linePieces, splitChars_of_not_mem free]
  simp

/-- The first line of a text, and the lines of what follows its line feed. -/
theorem linesOf_cons (free : '\n' ∉ cs) (rest : List Char) :
    linesOf (String.ofList (cs ++ '\n' :: rest)) =
      String.ofList (withoutReturn cs) :: linesOf (String.ofList rest) := by
  rw [linesOf, linesOf, String.toList_ofList, String.toList_ofList, linePieces_append,
    splitChars_of_not_mem free, List.singleton_append, List.map_cons]

/-- No line reaches over the border between the two texts. -/
def BetweenLines (front rest : String) : Prop :=
  front = "" ∨ rest = "" ∨ front.toList.getLast? = some '\n'

instance (front rest : String) : Decidable (BetweenLines front rest) :=
  inferInstanceAs (Decidable (_ ∨ _ ∨ _))

/-- **At a border between lines** the lines are those of both texts, as if each stood alone. -/
theorem linesOf_append {front rest : String} (border : BetweenLines front rest) :
    linesOf (front ++ rest) = linesOf front ++ linesOf rest := by
  have nothing : linesOf "" = [] := rfl
  have no_piece : linePieces [] = [] := rfl
  rcases border with rfl | rfl | feed
  · rw [String.empty_append, nothing, List.nil_append]
  · rw [String.append_empty, nothing, List.append_nil]
  · obtain ⟨cs, ends⟩ := List.getLast?_eq_some_iff.1 feed
    rw [linesOf, linesOf, linesOf, String.toList_append, ends, List.append_assoc,
      List.singleton_append, linePieces_append, linePieces_append, no_piece, List.append_nil,
      List.map_append]

/-- Texts that meet between two lines have the lines of both. -/
theorem solidLines_append {front rest : String} (border : BetweenLines front rest) :
    solidLines (front ++ rest) = solidLines front ++ solidLines rest := by
  rw [solidLines, linesOf_append border, List.filter_append, solidLines, solidLines]

/-! ## Lines as bytes -/

/-- A text without a line feed has none in its bytes. -/
theorem feed_not_mem_encodeChars (free : '\n' ∉ cs) : (0x0A : UInt8) ∉ encodeChars cs := by
  intro feed
  obtain ⟨c, among, byte⟩ := List.mem_flatMap.1 feed
  exact free (mem_encodeChar byte ▸ among)

/-- A carriage return is at the end of the bytes if it is at that of the text. -/
theorem getLast?_encodeChars_iff : (encodeChars cs).getLast? = some 0x0D ↔
    cs.getLast? = some '\r' := by
  rcases List.eq_nil_or_concat' cs with rfl | ⟨front, c, rfl⟩
  · simp [encodeChars]
  · have some_byte : encodeChar c ≠ [] := List.ne_nil_of_length_pos (length_encodeChar_pos c)
    have single : encodeChars [c] = encodeChar c := List.flatMap_singleton ..
    rw [encodeChars_append, single, List.getLast?_append_of_ne_nil _ some_byte,
      List.getLast?_concat, Option.some.injEq]
    constructor
    · intro last
      exact eq_of_mem_encodeChar (by decide) (List.mem_of_getLast? last)
    · rintro rfl
      decide

/-- A carriage return is dropped as a byte just where it is one as a character. -/
theorem chomp_encodeChars (cs : List Char) :
    chomp (encodeChars cs) = encodeChars (withoutReturn cs) := by
  rw [chomp, withoutReturn]
  by_cases ends : cs.getLast? = some '\r'
  · obtain ⟨front, rfl⟩ := List.getLast?_eq_some_iff.1 ends
    have single : encodeChars ['\r'] = [0x0D] := by decide
    rw [if_pos (getLast?_encodeChars_iff.2 ends), if_pos ends, encodeChars_append, single,
      List.dropLast_concat, List.dropLast_concat]
  · rw [if_neg (mt getLast?_encodeChars_iff.1 ends), if_neg ends]

/-- **A whole line** is read as its text says, and a blank one is passed. -/
theorem readLine_line (now : Timestamp) (cs : List Char) :
    readLine now (chomp (encodeChars cs)) =
      if isBlankLine (String.ofList (withoutReturn cs)) then .ok none
      else answerTo now (String.ofList (withoutReturn cs)) := by
  have read := decode?_utf8Bytes (String.ofList (withoutReturn cs))
  rw [utf8Bytes, String.toList_ofList, ← chomp_encodeChars] at read
  have blank : (trimChars (withoutReturn cs)).isEmpty =
      isBlankLine (String.ofList (withoutReturn cs)) := by
    rw [Bool.eq_iff_iff, List.isEmpty_iff, trimChars_eq_nil_iff, isBlankLine, String.toList_ofList,
      List.all_eq_true]
  rw [readLine, read]
  dsimp only
  rw [String.toList_ofList, blank, answerTo]
  rfl

/-! ## One reading -/

/-- The lines that are left on a stream whose connection will be closed. -/
def Left (s : JobStream) (lines : List String) : Prop :=
  s.broken = false ∧ ∃ text, decode? s.bytes = some text ∧ linesOf text = lines

/-- A line that is not blank is answered. -/
theorem answerTo_ne_none (now : Timestamp) (line : String) : answerTo now line ≠ .ok none := by
  unfold answerTo
  split <;> exact nofun

/-- The line of a descriptor is answered with it. -/
theorem answerTo_render (now : Timestamp) (d : JobDescriptor) :
    answerTo now (Wire.render d) = sent d := by
  rw [answerTo, (d.recorded now).parse_render d.ofDatum?_toDatum]

/-- Nothing is left of a stream that is used up. -/
theorem left_over : Left {} [] := by
  have nothing : decode? [] = some "" := decode?_utf8Bytes ""
  exact ⟨rfl, "", nothing, rfl⟩

/-- **One line of a reading.** If no line is left, the end is found. Otherwise the first line is
taken off; it is the answer, or nothing if it is blank, and the reading goes on behind it. -/
theorem Left.step (left : Left s lines) (now : Timestamp) :
    (lines = [] ∧ next now s = (.ok none, {})) ∨
      ∃ line more t, lines = line :: more ∧ Left t more ∧
        next now s = if isBlankLine line then next now t else (answerTo now line, t) := by
  obtain ⟨closed, text, read, rfl⟩ := left
  obtain ⟨cs, rfl⟩ : ∃ cs, text = String.ofList cs := ⟨text.toList, String.ofList_toList.symm⟩
  have bytes := decode?_eq_some_iff.1 read
  rw [utf8Bytes, String.toList_ofList] at bytes
  by_cases feed : '\n' ∈ cs
  · obtain ⟨line, rest, rfl, free⟩ := List.eq_append_cons_of_mem feed
    have split : splitLine s.bytes = some (encodeChars line, encodeChars rest) := by
      rw [bytes, encodeChars_append, encodeChars_cons]
      exact splitLine_append (feed_not_mem_encodeChars free)
    obtain ⟨t, taken, after, same⟩ := takeLine_line s.broken split
    have behind : decode? t.bytes = some (String.ofList rest) := by
      rw [after, decode?_eq_some_iff, utf8Bytes, String.toList_ofList]
    refine .inr ⟨_, _, t, linesOf_cons free rest, ⟨same.trans closed, _, behind, rfl⟩, ?_⟩
    rw [next_eq, taken]
    dsimp only
    rw [readLine_line]
    cases blank : isBlankLine (String.ofList (withoutReturn line)) with
    | true => rfl
    | false =>
      rw [if_neg Bool.false_ne_true, if_neg Bool.false_ne_true]
      rcases answer : answerTo now (String.ofList (withoutReturn line)) with e | _ | d
      · rfl
      · exact absurd answer (answerTo_ne_none now _)
      · rfl
  · have last := next_last now s (splitLine_none (bytes ▸ feed_not_mem_encodeChars feed))
    rw [closed, if_neg Bool.false_ne_true, bytes, readLine_line] at last
    have pieces := linePieces_of_not_mem feed
    by_cases empty : cs = []
    · subst empty
      exact .inl ⟨rfl, last⟩
    · rw [if_neg empty] at pieces
      refine .inr ⟨String.ofList (withoutReturn cs), [], {}, ?_, left_over, ?_⟩
      · rw [linesOf, String.toList_ofList, pieces, List.map_singleton]
      · rw [last, next_over]
        split <;> rfl

/-- **A reading ends** at the first line that is not blank, with the answer to it, or at the end if
there is none. -/
theorem Left.next (left : Left s lines) (now : Timestamp) :
    (lines.all isBlankLine = true ∧ next now s = (.ok none, {})) ∨
      ∃ blanks line more t, lines = blanks ++ line :: more ∧ blanks.all isBlankLine = true ∧
        isBlankLine line = false ∧ next now s = (answerTo now line, t) ∧ Left t more := by
  induction lines generalizing s with
  | nil =>
    obtain ⟨-, ended⟩ | ⟨_, _, _, same, -⟩ := left.step now
    · exact .inl ⟨rfl, ended⟩
    · cases same
  | cons line more ih =>
    obtain ⟨same, -⟩ | ⟨_, _, t, same, behind, taken⟩ := left.step now
    · cases same
    · obtain ⟨rfl, rfl⟩ := List.cons.inj same
      cases blank : isBlankLine line with
      | true =>
        rw [blank, if_pos rfl] at taken
        rw [taken]
        rcases ih behind with ⟨all_blank, ended⟩ | ⟨blanks, solid, rest, t', rfl, all_blank, found⟩
        · exact .inl ⟨by rw [List.all_cons, blank, all_blank]; rfl, ended⟩
        · exact .inr ⟨line :: blanks, solid, rest, t', rfl,
            by rw [List.all_cons, blank, all_blank]; rfl, found⟩
      | false =>
        rw [blank, if_neg Bool.false_ne_true] at taken
        exact .inr ⟨[], line, more, t, rfl, rfl, blank, taken, behind⟩

/-! ## Repeated reading -/

/-- The answers to lines in their order, once for each time of day, and then the end. -/
def answers (times : List Timestamp) (lines : List String) :
    List (Except Error (Option JobDescriptor)) :=
  (List.zipWith answerTo times lines).takeD times.length (.ok none)

/-- The answers to two lists of lines are those to the whole. -/
theorem answers_append {before : List Timestamp} {front : List String}
    (answered : before.length = front.length) (after : List Timestamp) (rest : List String) :
    answers (before ++ after) (front ++ rest) = answers before front ++ answers after rest := by
  induction before generalizing front with
  | nil =>
    obtain rfl := List.length_eq_zero_iff.1 answered.symm
    rfl
  | cons now before ih =>
    obtain _ | ⟨line, front⟩ := front
    · cases answered
    · exact congrArg (answerTo now line :: ·) (ih (Nat.succ.inj answered))

/-- Of blank lines none is left. -/
theorem filter_of_blank {blanks : List String} (all_blank : blanks.all isBlankLine = true) :
    (blanks.filter fun line => !isBlankLine line) = [] := by
  rw [List.filter_eq_nil_iff]
  intro line among
  simp [List.all_eq_true.1 all_blank line among]

/-- Repeated reading answers the lines that are not blank, in their order and each once, and then
finds the end. -/
theorem Left.results_eq (left : Left s lines) (times : List Timestamp) :
    results times s = answers times (lines.filter fun line => !isBlankLine line) := by
  induction times generalizing s lines with
  | nil => rfl
  | cons now times ih =>
    rcases left.next now with ⟨all_blank, ended⟩ | ⟨blanks, line, more, t, rfl, all_blank, solid,
      found, behind⟩
    · rw [results, ended, results_over, filter_of_blank all_blank]
      rfl
    · rw [results, found, ih behind, List.filter_append, filter_of_blank all_blank,
        List.nil_append, List.filter_cons_of_pos (by rw [solid]; rfl)]
      rfl

/-- A text in one piece is answered line by line. -/
theorem results_ofText (text : String) (times : List Timestamp) :
    results times (ofText text) = answers times (solidLines text) := by
  have left : Left (ofText text) (linesOf text) :=
    ⟨rfl, text, (congrArg decode? (List.append_nil _)).trans (decode?_utf8Bytes text), rfl⟩
  exact left.results_eq times

/-- **A text is answered line by line.** Let the bytes that are held and those to come read as a
text, whatever chunks they come in, and let the connection be closed after them.

* Repeated reading gives the answers to the lines that are not blank, in their order: the
  descriptor of a line that is one, an error for any other. Then it finds the end, again and again.
* A line that is no descriptor costs one error: before it and behind it the answers are those that
  the texts before it and behind it would be given if they came alone.
* Where the chunks end makes no difference.
* Each reading ends, at the end of the stream or at the first line that is not blank. The lines
  behind that one are left on the stream. -/
theorem answered_line_by_line (s : JobStream) (text : String) (valid : decode? s.bytes = some text)
    (closed : s.broken = false) :
    (∀ times, results times s = answers times (solidLines text)) ∧
    (∀ front oops rest line fault before now after,
      text = front ++ (oops ++ rest) → BetweenLines front (oops ++ rest) →
      BetweenLines oops rest → linesOf oops = [line] → isBlankLine line = false →
      (Wire.parse now line : Except Json.Fault JobDescriptor) = .error fault →
      before.length = (solidLines front).length →
      results (before ++ now :: after) s = results before (ofText front) ++
        .error (.transport ("undecodable job descriptor: " ++ faultText fault)) ::
        results after (ofText rest)) ∧
    (∀ s' : JobStream, s'.bytes = s.bytes → s'.broken = false → ∀ times,
      results times s' = results times s) ∧
    ∀ now,
      ((linesOf text).all isBlankLine = true ∧ next now s = (.ok none, {})) ∨
      ∃ blanks line more t, linesOf text = blanks ++ line :: more ∧
        blanks.all isBlankLine = true ∧ isBlankLine line = false ∧
        next now s = (answerTo now line, t) ∧ Left t more := by
  have left : Left s (linesOf text) := ⟨closed, text, valid, rfl⟩
  refine ⟨left.results_eq, ?_, ?_, left.next⟩
  · intro front oops rest line fault before now after cut border border' single solid refused
      answered
    have one : solidLines oops = [line] := by
      rw [solidLines, single, List.filter_cons_of_pos (by rw [solid]; rfl), List.filter_nil]
    have error : answerTo now line =
        .error (.transport ("undecodable job descriptor: " ++ faultText fault)) := by
      rw [answerTo, refused]
    rw [left.results_eq, ← solidLines, cut, solidLines_append border, solidLines_append border',
      one, answers_append answered, results_ofText, results_ofText, ← error]
    rfl
  · intro s' same closed' times
    have left' : Left s' (linesOf text) := ⟨closed', text, same ▸ valid, rfl⟩
    rw [left'.results_eq, left.results_eq]

/-- A sign of life, a line that is no descriptor, a blank line, and a sign of life without a line
feed behind it. -/
def mixed : String :=
  Wire.render (JobDescriptor.keepAlive "w") ++ "\r\n" ++
    ("oops\n" ++ (" \n" ++ Wire.render (JobDescriptor.keepAlive "v")))

/-- Of the mixed text three lines are not blank. -/
theorem solidLines_mixed : solidLines mixed =
    [Wire.render (JobDescriptor.keepAlive "w"), "oops",
      Wire.render (JobDescriptor.keepAlive "v")] := by
  decide +kernel

/-- The statement at a stream of two signs of life with a line between them that is no descriptor,
cut into chunks inside that line. -/
theorem answered_line_by_line_mixed :
    results [.epoch, .epoch, .epoch, .epoch]
        ⟨[], [(utf8Bytes mixed).take 51, (utf8Bytes mixed).drop 51], false⟩ =
      [sent (.keepAlive "w"), .error (.transport "undecodable job descriptor: not JSON"),
        sent (.keepAlive "v"), .ok none] ∧
    results [.epoch, .epoch, .epoch]
        ⟨[], [(utf8Bytes mixed).take 51, (utf8Bytes mixed).drop 51], false⟩ =
      results [.epoch] (ofText (Wire.render (JobDescriptor.keepAlive "w") ++ "\r\n")) ++
        .error (.transport "undecodable job descriptor: not JSON") ::
        results [.epoch] (ofText (" \n" ++ Wire.render (JobDescriptor.keepAlive "v"))) := by
  have oops : (Wire.parse .epoch "oops" : Except Json.Fault JobDescriptor) = .error .malformed := by
    rfl
  have refused : answerTo .epoch "oops" =
      .error (.transport "undecodable job descriptor: not JSON") := by
    rw [answerTo, oops]
    rfl
  have valid : decode? (JobStream.bytes
      ⟨[], [(utf8Bytes mixed).take 51, (utf8Bytes mixed).drop 51], false⟩) = some mixed := by
    rw [bytes, List.flatten_cons, List.flatten_singleton, List.nil_append, List.take_append_drop]
    exact decode?_utf8Bytes mixed
  obtain ⟨all, one_error, -⟩ := answered_line_by_line _ mixed valid rfl
  constructor
  · rw [all, solidLines_mixed, ← answerTo_render .epoch, ← answerTo_render .epoch, ← refused]
    rfl
  · exact one_error _ "oops\n" _ "oops" .malformed [.epoch] .epoch [.epoch] rfl
      (by decide +kernel) (by decide +kernel) rfl rfl oops rfl

end JobStream
end Casework
