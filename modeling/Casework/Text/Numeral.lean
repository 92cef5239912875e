/-
# Decimal numerals

Reading a number that an operator typed. An optional `+` is allowed, and `-` where the range
has negative numbers; digits are ASCII; blanks are not skipped. A refusal names its cause, and
the causes have fixed wordings.
-/

namespace Casework
namespace Text

/-- Why a numeral is refused. -/
inductive NumeralError where
  | empty
  | invalidDigit
  | tooLarge
  | tooSmall
deriving DecidableEq, Repr

/-- The wording of the cause. -/
def NumeralError.message : NumeralError → String
  | .empty => "cannot parse integer from empty string"
  | .invalidDigit => "invalid digit found in string"
  | .tooLarge => "number too large to fit in target type"
  | .tooSmall => "number too small to fit in target type"

/-- The value of an ASCII digit. -/
def digitValue? (c : Char) : Option Nat :=
  if '0' ≤ c ∧ c ≤ '9' then some (c.toNat - '0'.toNat) else none

/-- The largest value of an unsigned 64-bit number. -/
def maxU64 : Nat := 18446744073709551615

/-- The largest value of a signed 64-bit number. -/
def maxI64 : Nat := 9223372036854775807

/-- Adds digits to `acc` as long as the value stays within `limit`: the first fault from the
left is the one reported, a digit that does not fit before a later character that is none. -/
def readDigits (limit acc : Nat) : List Char → Except NumeralError Nat
  | [] => .ok acc
  | c :: cs =>
    match digitValue? c with
    | none => .error .invalidDigit
    | some d =>
      if acc * 10 + d ≤ limit then readDigits limit (acc * 10 + d) cs else .error .tooLarge

/-- An unsigned number of at most `limit`. -/
def readUnsigned (limit : Nat) (s : String) : Except NumeralError Nat :=
  match s.toList with
  | [] => .error .empty
  | ['+'] => .error .invalidDigit
  | '+' :: cs => readDigits limit 0 cs
  | cs => readDigits limit 0 cs

/-- A signed number from `-limit - 1` to `limit`. -/
def readSigned (limit : Nat) (s : String) : Except NumeralError Int :=
  match s.toList with
  | [] => .error .empty
  | ['+'] => .error .invalidDigit
  | ['-'] => .error .invalidDigit
  | '+' :: cs => (readDigits limit 0 cs).map Int.ofNat
  | '-' :: cs =>
    match readDigits (limit + 1) 0 cs with
    | .ok n => .ok (-(n : Int))
    | .error .tooLarge => .error .tooSmall
    | .error e => .error e
  | cs => (readDigits limit 0 cs).map Int.ofNat

/-- The decimal digits of a number, filled up with zeros to at least `width`. -/
def digitsPadded (width n : Nat) : String :=
  let cs := Nat.toDigits 10 n
  String.ofList (List.replicate (width - cs.length) '0' ++ cs)

end Text
end Casework
