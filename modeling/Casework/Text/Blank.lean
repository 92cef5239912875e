/-
# Blank characters and trimming

A character is blank when Unicode gives it the property `White_Space`: 25 code points, among
them the no-break space `U+00A0`, the ideographic space `U+3000` and the next-line control
`U+0085`, but neither the zero-width space `U+200B` nor the byte-order mark `U+FEFF`.
-/

namespace Casework
namespace Text

/-- The code points with the property `White_Space`, as inclusive ranges. -/
def blankRanges : List (Nat × Nat) :=
  [(0x9, 0xD), (0x20, 0x20), (0x85, 0x85), (0xA0, 0xA0), (0x1680, 0x1680), (0x2000, 0x200A),
    (0x2028, 0x2029), (0x202F, 0x202F), (0x205F, 0x205F), (0x3000, 0x3000)]

/-- Membership of a code point in a list of inclusive ranges. -/
def inRanges (ranges : List (Nat × Nat)) (n : Nat) : Bool :=
  ranges.any fun r => r.1 ≤ n && n ≤ r.2

/-- A character is blank when it has the property `White_Space`. -/
def isBlank (c : Char) : Bool := inRanges blankRanges c.toNat

/-- Drops the blank characters at the front. -/
def trimStart (cs : List Char) : List Char := cs.dropWhile isBlank

/-- Drops the blank characters at the back. -/
def trimEnd (cs : List Char) : List Char := (cs.reverse.dropWhile isBlank).reverse

/-- Drops the blank characters at both ends. -/
def trimChars (cs : List Char) : List Char := trimEnd (trimStart cs)

/-- A text without the blank characters at its two ends. -/
def trim (s : String) : String := String.ofList (trimChars s.toList)

/-- The pieces of a character list between the occurrences of `sep`; there is always at least
one piece. -/
def splitChars (sep : Char) : List Char → List (List Char)
  | [] => [[]]
  | c :: cs =>
    if c = sep then [] :: splitChars sep cs
    else
      match splitChars sep cs with
      | [] => [[c]]
      | p :: ps => (c :: p) :: ps

/-- The pieces of a comma-separated list that are not blank, each trimmed. -/
def commaPieces (s : String) : List String :=
  ((splitChars ',' s.toList).map trimChars).filterMap fun p =>
    if p.isEmpty then none else some (String.ofList p)

/-- The texts joined with `sep` between neighbours. -/
def joinWith (sep : String) : List String → String
  | [] => ""
  | [s] => s
  | s :: t :: rest => s ++ sep ++ joinWith sep (t :: rest)

end Text
end Casework
