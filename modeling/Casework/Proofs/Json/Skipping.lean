/-
# Values that nobody asked for

The grammar of JSON as it is spelled (`Spelt`), with blanks wherever they may stand, and the
reader that skips what it has no use for: of a spelled value followed by anything that is not
part of it, `skipAny` leaves what follows (`skipAny_spelt`).

| part | begins with | ends with |
| --- | --- | --- |
| `Part.value` | the value | the value |
| `Part.items` | the comma or bracket after an item | `]` |
| `Part.members` | the comma or brace after a member | `}` |

A skipped text needs well-formed escapes but no characters, and a skipped number no range; what
is spelled here is all of JSON, also the texts and numbers that no reader could take as values.
-/

import Casework.Proofs.Json.Reader

namespace Casework
namespace Json

open Text

/-! ## Numbers -/

/-- One or more digits. -/
def SomeDigits (ds : List Char) : Prop := Digits ds ∧ ds ≠ []

/-- The digits before the point: no zero in front of others. -/
def IsWhole (ds : List Char) : Prop := SomeDigits ds ∧ (ds.head? = some '0' → ds = ['0'])

/-- A fraction, which may be missing. -/
def IsFraction (cs : List Char) : Prop := cs = [] ∨ ∃ ds, SomeDigits ds ∧ cs = '.' :: ds

/-- An exponent, which may be missing. -/
def IsExponent (cs : List Char) : Prop :=
  cs = [] ∨ ∃ e, (e = 'e' ∨ e = 'E') ∧ ∃ sign, (sign = [] ∨ sign = ['+'] ∨ sign = ['-']) ∧
    ∃ ds, SomeDigits ds ∧ cs = e :: (sign ++ ds)

/-- A number without its sign. -/
def IsNumber (cs : List Char) : Prop :=
  ∃ whole fraction exponent, IsWhole whole ∧ IsFraction fraction ∧ IsExponent exponent ∧
    cs = whole ++ (fraction ++ exponent)

/-- Digits are skipped as long as they go on. -/
theorem skipDigits_digits {ds rest : List Char} (digits : SomeDigits ds) (stop : NoDigit rest) :
    skipDigits (ds ++ rest) = .ok rest := by
  have left : (ds ++ rest).dropWhile Char.isDigit = rest := by
    rw [List.dropWhile_append_of_pos digits.1]
    rcases rest with _ | ⟨c, rest⟩
    · rfl
    · exact List.dropWhile_cons_of_neg (by simp [stop c rfl])
  have shorter : rest.length < (ds ++ rest).length := by
    have := List.length_pos_iff.2 digits.2
    rw [List.length_append]
    omega
  rw [skipDigits, left, if_pos shorter]

/-- Without its letter there is no exponent. -/
theorem skipExponent_other {c : Char} {cs : List Char} (small : c ≠ 'e') (large : c ≠ 'E') :
    skipExponent (c :: cs) = .ok (c :: cs) := by
  unfold skipExponent
  exact if_neg (not_or.2 ⟨small, large⟩)

/-- The exponent is passed over, or there is none. -/
theorem skipExponent_exponent {cs rest : List Char} (h : IsExponent cs) (ends : Parted rest) :
    skipExponent (cs ++ rest) = .ok rest := by
  rcases h with rfl | ⟨e, mark, sign, signs, ds, digits, rfl⟩
  · rw [List.nil_append]
    rcases rest with _ | ⟨c, rest⟩
    · rfl
    · obtain ⟨-, -, small, large⟩ := ends c rfl
      exact skipExponent_other small large
  · have passed := skipDigits_digits digits ends.noDigit
    obtain ⟨d, more, rfl⟩ := List.exists_cons_of_ne_nil digits.2
    have digit : d.isDigit = true := digits.1 d (List.mem_cons_self ..)
    have unsigned : d ≠ '+' ∧ d ≠ '-' := by
      constructor <;> rintro rfl <;> exact absurd digit (by decide)
    rw [List.cons_append, List.append_assoc]
    unfold skipExponent
    dsimp only
    rw [if_pos mark]
    rcases signs with rfl | rfl | rfl
    · rw [List.nil_append]
      split
      · rename_i same
        exact absurd (List.cons.inj same).1 unsigned.1
      · rename_i same
        exact absurd (List.cons.inj same).1 unsigned.2
      · exact passed
    · exact passed
    · exact passed

/-- A fraction or an exponent does not begin with a digit. -/
theorem noDigit_scale {fraction exponent rest : List Char} (hf : IsFraction fraction)
    (he : IsExponent exponent) (ends : Parted rest) :
    NoDigit (fraction ++ (exponent ++ rest)) := by
  rcases hf with rfl | ⟨ds, -, rfl⟩
  · rcases he with rfl | ⟨e, mark, sign, -, ds, -, rfl⟩
    · exact ends.noDigit
    · refine NoDigit.cons ?_
      rcases mark with rfl | rfl <;> rfl
  · rw [List.cons_append]
    exact NoDigit.cons rfl

/-- **A number is passed over.** -/
theorem skipNumber_number {cs rest : List Char} (h : IsNumber cs) (ends : Parted rest) :
    skipNumber (cs ++ rest) = .ok rest := by
  obtain ⟨whole, fraction, exponent, ⟨digits, zero⟩, hf, he, rfl⟩ := h
  have scale := noDigit_scale hf he ends
  have first := skipDigits_digits digits scale
  have plain : ¬ ((whole ++ (fraction ++ (exponent ++ rest))).head? = some '0' ∧
      (fraction ++ (exponent ++ rest)).length + 1 <
        (whole ++ (fraction ++ (exponent ++ rest))).length) := by
    rintro ⟨front, longer⟩
    rw [List.head?_append_of_ne_nil _ digits.2] at front
    rw [zero front] at longer
    simp at longer
  rw [List.append_assoc, List.append_assoc, skipNumber, first]
  show (if _ then _ else _) = _
  rw [if_neg plain]
  rcases hf with rfl | ⟨ds, more, rfl⟩
  · rw [List.nil_append]
    have passed := skipExponent_exponent he ends
    rcases he with rfl | ⟨e, mark, sign, -, ds, -, rfl⟩
    · rw [List.nil_append] at passed ⊢
      split
      · exact absurd rfl (ends '.' rfl).2.1
      · exact passed
    · rw [List.cons_append] at passed ⊢
      split
      · rename_i same
        rw [(List.cons.inj same).1] at mark
        exact absurd mark (by decide)
      · exact passed
  · have behind : NoDigit (exponent ++ rest) := noDigit_scale (.inl rfl) he ends
    show (skipDigits (ds ++ (exponent ++ rest)) >>= skipExponent) = _
    rw [skipDigits_digits more behind]
    exact skipExponent_exponent he ends

/-- Without a digit there is no number. -/
theorem skipNumber_other {c : Char} (h : c.isDigit = false) (cs : List Char) :
    skipNumber (c :: cs) = .error .malformed := by
  have none : skipDigits (c :: cs) = .error .malformed := by
    rw [skipDigits, List.dropWhile_cons_of_neg (by simp [h])]
    exact if_neg (Nat.lt_irrefl _)
  rw [skipNumber, none]
  rfl

/-- A number without a sign begins with a digit. -/
theorem IsNumber.front {cs : List Char} (h : IsNumber cs) :
    ∃ c more, cs = c :: more ∧ c.isDigit = true := by
  obtain ⟨whole, fraction, exponent, ⟨⟨digits, some⟩, -⟩, -, -, rfl⟩ := h
  obtain ⟨c, more, rfl⟩ := List.exists_cons_of_ne_nil some
  exact ⟨c, _, rfl, digits c (List.mem_cons_self ..)⟩

/-! ## Texts -/

/-- The letters that a backslash makes a character of. -/
def escapeLetters : List Char := ['"', '\\', '/', 'b', 'f', 'n', 'r', 't']

/-- Each of the letters stands for a character. -/
theorem isSome_plainEscape? {c : Char} (h : c ∈ escapeLetters) :
    (plainEscape? c).isSome = true ∧ c ≠ 'u' := by
  simp only [escapeLetters, List.mem_cons, List.not_mem_nil, or_false] at h
  rcases h with rfl | rfl | rfl | rfl | rfl | rfl | rfl | rfl <;> exact ⟨rfl, by decide⟩

/-- A text after its opening quote, the closing one included. -/
inductive TextTail : List Char → Prop
  | close : TextTail ['"']
  | plain {c tail} (visible : 0x20 ≤ c.toNat) (quote : c ≠ '"') (backslash : c ≠ '\\')
      (more : TextTail tail) : TextTail (c :: tail)
  | letter {c tail} (escape : c ∈ escapeLetters) (more : TextTail tail) :
      TextTail ('\\' :: c :: tail)
  | digits {quad tail} (four : quad.length = 4) (hex : ∀ c ∈ quad, (hexValue? c).isSome = true)
      (more : TextTail tail) : TextTail ('\\' :: 'u' :: (quad ++ tail))

/-- Four hexadecimal digits stand for a number. -/
theorem isSome_hexQuad {a b c d : Char} (h : ∀ x ∈ [a, b, c, d], (hexValue? x).isSome = true) :
    (hexQuad [a, b, c, d]).isSome = true := by
  simp only [List.mem_cons, List.not_mem_nil, or_false, forall_eq_or_imp, forall_eq,
    Option.isSome_iff_exists] at h
  obtain ⟨⟨_, ha⟩, ⟨_, hb⟩, ⟨_, hc⟩, ⟨_, hd⟩⟩ := h
  rw [hexQuad, ha, hb, hc, hd]
  rfl

/-- **A text is passed over.** -/
theorem TextTail.skipText {tail : List Char} (h : TextTail tail) (rest : List Char) :
    Json.skipText (tail ++ rest) = .ok rest := by
  induction h with
  | close => rw [List.singleton_append, Json.skipText]
  | @plain c tail visible quote backslash _ ih =>
    rw [List.cons_append, Json.skipText, if_neg (by omega), ih]
    all_goals simp_all
  | @letter c tail escape _ ih =>
    obtain ⟨stands, other⟩ := isSome_plainEscape? escape
    rw [List.cons_append, List.cons_append, Json.skipText, if_pos stands, ih]
    rintro a b c d cs same
    exact absurd same other
  | @digits quad tail four hex _ ih =>
    match quad, four with
    | [a, b, c, d], _ => exact (if_pos (isSome_hexQuad hex)).trans ih

/-! ## Values -/

/-- A key with its quotes and its colon. -/
def IsKey (cs : List Char) : Prop :=
  ∃ before tail after, Blanks before ∧ TextTail tail ∧ Blanks after ∧
    cs = before ++ '"' :: (tail ++ (after ++ [':']))

/-- The parts that the text of a value is made of. -/
inductive Part where
  | value
  | items
  | members

/-- **The spelling of a value**, and of what follows an item of an array or a member of an
object, up to the closing mark. -/
inductive Spelt : Part → List Char → Prop
  | blank {part c cs} (space : isSpace c = true) (h : Spelt part cs) : Spelt part (c :: cs)
  | null : Spelt .value ['n', 'u', 'l', 'l']
  | bool (b : Bool) : Spelt .value (renderBool b)
  | number {cs} (h : IsNumber cs) : Spelt .value cs
  | negative {cs} (h : IsNumber cs) : Spelt .value ('-' :: cs)
  | text {tail} (h : TextTail tail) : Spelt .value ('"' :: tail)
  | emptyArray {ws} (blanks : Blanks ws) : Spelt .value ('[' :: (ws ++ [']']))
  | array {v items} (first : Spelt .value v) (more : Spelt .items items) :
      Spelt .value ('[' :: (v ++ items))
  | emptyObject {ws} (blanks : Blanks ws) : Spelt .value ('\x7b' :: (ws ++ ['\x7d']))
  | object {key v members} (named : IsKey key) (first : Spelt .value v)
      (more : Spelt .members members) : Spelt .value ('\x7b' :: (key ++ (v ++ members)))
  | closeArray : Spelt .items [']']
  | item {v items} (next : Spelt .value v) (more : Spelt .items items) :
      Spelt .items (',' :: (v ++ items))
  | closeObject : Spelt .members ['\x7d']
  | member {key v members} (named : IsKey key) (next : Spelt .value v)
      (more : Spelt .members members) : Spelt .members (',' :: (key ++ (v ++ members)))

/-- What is left after a part. -/
def skipPart : Part → ℕ → ℕ → List Char → Except Fault (List Char)
  | .value => skipValue .lenient
  | .items => skipItems .lenient
  | .members => skipMembers .lenient

/-- A blank before a part is skipped. -/
theorem skipPart_blank (part : Part) (depth fuel : ℕ) {c : Char} (space : isSpace c = true)
    (cs : List Char) : skipPart part depth fuel (c :: cs) = skipPart part depth fuel cs := by
  rcases fuel with _ | fuel
  · cases part <;> simp [skipPart, skipValue, skipItems, skipMembers]
  · cases part <;> simp only [skipPart, skipValue, skipItems, skipMembers, skipSpace_blank space]

/-- What begins with a digit is a number. -/
theorem skipValue_digit {c : Char} (digit : c.isDigit = true) (depth fuel : ℕ) (cs : List Char) :
    skipValue .lenient depth (fuel + 1) (c :: cs) = skipNumber (c :: cs) := by
  have other {d : Char} {rest : List Char} (same : c :: cs = d :: rest)
      (h : d.isDigit = false) : False := by
    rw [← (List.cons.inj same).1, digit] at h
    cases h
  unfold skipValue
  rw [skipSpace_cons (isSpace_digit digit)]
  split
  all_goals first
    | rfl
    | exact (other ‹_› (by decide)).elim

/-- A closing bracket is not the front of a value. -/
theorem skipValue_bracket {cs rest : List Char} (h : skipSpace cs = ']' :: rest)
    (depth fuel : ℕ) : skipValue .lenient depth fuel cs = .error .malformed := by
  rcases fuel with _ | fuel
  · rw [skipValue]
  · unfold skipValue
    rw [h]
    cases depth <;> exact skipNumber_other rfl rest

/-- A key is passed over with its colon. -/
theorem skipKey_key {key : List Char} (h : IsKey key) (rest : List Char) :
    skipKey .lenient (key ++ rest) = .ok rest := by
  obtain ⟨before, tail, after, front, text, back, rfl⟩ := h
  have split : before ++ '"' :: (tail ++ (after ++ [':'])) ++ rest =
      before ++ '"' :: (tail ++ (after ++ ':' :: rest)) := by simp
  have colon : skipSpace (after ++ ':' :: rest) = ':' :: rest := skipSpace_front back rfl rest
  unfold skipKey
  rw [split, skipSpace_front front rfl]
  show (skipText _ >>= _) = _
  rw [text.skipText]
  simp only [bind, Except.bind, colon]

/-- A key is not a closing brace. -/
theorem IsKey.front {key : List Char} (h : IsKey key) (rest : List Char) :
    ∃ more, skipSpace (key ++ rest) = '"' :: more := by
  obtain ⟨before, tail, after, front, -, -, rfl⟩ := h
  exact ⟨tail ++ (after ++ [':']) ++ rest, by
    rw [List.append_assoc, List.cons_append, skipSpace_front front rfl]⟩

/-! ### Arrays and objects -/

/-- Behind its bracket an array ends, or goes on with an item. -/
theorem skipValue_openArray (depth fuel : ℕ) (cs : List Char) :
    skipValue .lenient (depth + 1) (fuel + 1) ('[' :: cs) =
      match skipSpace cs with
      | ']' :: rest => .ok rest
      | _ => skipPart .value depth fuel cs >>= skipPart .items depth fuel := rfl

/-- Behind its brace an object ends, or goes on with a member. -/
theorem skipValue_openObject (depth fuel : ℕ) (cs : List Char) :
    skipValue .lenient (depth + 1) (fuel + 1) ('\x7b' :: cs) =
      match skipSpace cs with
      | '\x7d' :: rest => .ok rest
      | _ => skipKey .lenient cs >>= skipPart .value depth fuel >>= skipPart .members depth fuel :=
  rfl

/-- An array is skipped with its first item and the others. -/
theorem skipValue_array {depth fuel : ℕ} {cs items rest : List Char}
    (item : skipPart .value depth fuel cs = .ok items)
    (more : skipPart .items depth fuel items = .ok rest) :
    skipValue .lenient (depth + 1) (fuel + 1) ('[' :: cs) = .ok rest := by
  rw [skipValue_openArray]
  split
  · rename_i bracket
    have refused := (skipValue_bracket bracket depth fuel).symm.trans item
    cases refused
  · rw [item]
    exact more

/-- A member: its key, its value and what is left of the members. -/
theorem skip_member {depth fuel : ℕ} {key cs members rest : List Char} (named : IsKey key)
    (value : skipPart .value depth fuel cs = .ok members)
    (more : skipPart .members depth fuel members = .ok rest) :
    (skipKey .lenient (key ++ cs) >>= skipPart .value depth fuel >>=
      skipPart .members depth fuel) = .ok rest := by
  rw [skipKey_key named]
  show (skipPart .value depth fuel cs >>= skipPart .members depth fuel) = _
  rw [value]
  exact more

/-- An object is skipped with its first key, the value of it, and the other members. -/
theorem skipValue_object {depth fuel : ℕ} {key cs members rest : List Char} (named : IsKey key)
    (value : skipPart .value depth fuel cs = .ok members)
    (more : skipPart .members depth fuel members = .ok rest) :
    skipValue .lenient (depth + 1) (fuel + 1) ('\x7b' :: (key ++ cs)) = .ok rest := by
  obtain ⟨text, front⟩ := named.front cs
  rw [skipValue_openObject, front]
  exact skip_member named value more

/-- Behind a comma one more item is skipped. -/
theorem skipItems_item {depth fuel : ℕ} {cs items rest : List Char}
    (item : skipPart .value depth fuel cs = .ok items)
    (more : skipPart .items depth fuel items = .ok rest) :
    skipItems .lenient depth (fuel + 1) (',' :: cs) = .ok rest := by
  show (skipPart .value depth fuel cs >>= skipPart .items depth fuel) = _
  rw [item]
  exact more

/-- What follows an item or a member does not belong to it. -/
theorem Spelt.parted {part : Part} {cs : List Char} (h : Spelt part cs) (behind : part ≠ .value)
    (rest : List Char) : Parted (cs ++ rest) := by
  cases h with
  | blank space h => exact parted_blank space _
  | closeArray => exact .cons (by decide) _
  | item => exact .cons (by decide) _
  | closeObject => exact .cons (by decide) _
  | member => exact .cons (by decide) _
  | _ => exact absurd rfl behind

/-- **A spelled part is passed over**, and what follows it is left, with as much fuel and as many
levels as the part has characters. -/
theorem Spelt.skip {part : Part} {cs : List Char} (h : Spelt part cs) {depth fuel : ℕ}
    (deep : cs.length ≤ depth) (enough : cs.length ≤ fuel) {rest : List Char}
    (ends : Parted rest) : skipPart part depth fuel (cs ++ rest) = .ok rest := by
  induction h generalizing depth fuel rest with
  | @blank part c cs space _ ih =>
    rw [List.length_cons] at deep enough
    rw [List.cons_append, skipPart_blank part depth fuel space]
    exact ih (by omega) (by omega) ends
  | null =>
    obtain ⟨fuel, rfl⟩ := Nat.exists_eq_add_of_lt enough
    rfl
  | bool b =>
    cases b
    all_goals
      obtain ⟨fuel, rfl⟩ := Nat.exists_eq_add_of_lt enough
      rfl
  | @number cs h =>
    obtain ⟨c, more, rfl, digit⟩ := h.front
    obtain ⟨fuel, rfl⟩ := Nat.exists_eq_add_of_lt enough
    exact (skipValue_digit digit ..).trans (skipNumber_number h ends)
  | negative h =>
    obtain ⟨fuel, rfl⟩ := Nat.exists_eq_add_of_lt enough
    exact skipNumber_number h ends
  | text h =>
    obtain ⟨fuel, rfl⟩ := Nat.exists_eq_add_of_lt enough
    exact h.skipText rest
  | @emptyArray ws blanks =>
    obtain ⟨depth, rfl⟩ := Nat.exists_eq_add_of_lt deep
    obtain ⟨fuel, rfl⟩ := Nat.exists_eq_add_of_lt enough
    rw [List.cons_append, List.append_assoc, List.singleton_append]
    refine (skipValue_openArray ..).trans ?_
    rw [skipSpace_front blanks rfl]
    rfl
  | @array v items _ more ihv ihs =>
    obtain ⟨depth, rfl⟩ := Nat.exists_eq_add_of_lt deep
    obtain ⟨fuel, rfl⟩ := Nat.exists_eq_add_of_lt enough
    rw [List.length_append, List.cons_append, List.append_assoc]
    exact skipValue_array (ihv (by omega) (by omega) (more.parted nofun rest))
      (ihs (by omega) (by omega) ends)
  | @emptyObject ws blanks =>
    obtain ⟨depth, rfl⟩ := Nat.exists_eq_add_of_lt deep
    obtain ⟨fuel, rfl⟩ := Nat.exists_eq_add_of_lt enough
    rw [List.cons_append, List.append_assoc, List.singleton_append]
    refine (skipValue_openObject ..).trans ?_
    rw [skipSpace_front blanks rfl]
    rfl
  | @object key v members named _ more ihv ihs =>
    obtain ⟨depth, rfl⟩ := Nat.exists_eq_add_of_lt deep
    obtain ⟨fuel, rfl⟩ := Nat.exists_eq_add_of_lt enough
    rw [List.length_append, List.length_append, List.cons_append, List.append_assoc,
      List.append_assoc]
    exact skipValue_object named (ihv (by omega) (by omega) (more.parted nofun rest))
      (ihs (by omega) (by omega) ends)
  | closeArray =>
    obtain ⟨fuel, rfl⟩ := Nat.exists_eq_add_of_lt enough
    rfl
  | @item v items _ more ihv ihs =>
    rw [List.length_cons, List.length_append] at deep
    obtain ⟨fuel, rfl⟩ := Nat.exists_eq_add_of_lt enough
    rw [List.length_append, List.cons_append, List.append_assoc]
    exact skipItems_item (ihv (by omega) (by omega) (more.parted nofun rest))
      (ihs (by omega) (by omega) ends)
  | closeObject =>
    obtain ⟨fuel, rfl⟩ := Nat.exists_eq_add_of_lt enough
    rfl
  | @member key v members named _ more ihv ihs =>
    rw [List.length_cons, List.length_append, List.length_append] at deep
    obtain ⟨fuel, rfl⟩ := Nat.exists_eq_add_of_lt enough
    rw [List.length_append, List.length_append, List.cons_append, List.append_assoc,
      List.append_assoc]
    exact skip_member named (ihv (by omega) (by omega) (more.parted nofun rest))
      (ihs (by omega) (by omega) ends)

/-- **A value that nobody asked for is skipped**, whatever it is, and what follows it is left. -/
theorem skipAny_spelt {v rest : List Char} (h : Spelt .value v) (ends : Parted rest) :
    skipAny (v ++ rest) = .ok rest :=
  h.skip (by simp) (by rw [List.length_append]; omega) ends

end Json
end Casework
