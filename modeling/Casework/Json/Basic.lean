/-
# JSON values and their compact text

`Json.render` writes a value without blanks, the members of an object in their order. A text
escapes the quote, the backslash and the control characters; everything else is written as it
is.
-/

import Casework.Text.Quoted

namespace Casework

/-- A JSON value; its numbers are integers. -/
inductive Json where
  | null
  | bool (b : Bool)
  | number (n : Int)
  | text (s : String)
  | array (items : List Json)
  | object (members : List (String × Json))

namespace Json

/-- A lower-case hexadecimal digit. -/
def hexDigit (n : Nat) : Char := Char.ofNat (if n < 10 then 0x30 + n else 0x57 + n)

/-- How a character is written in a JSON text. -/
def escapeChar (c : Char) : List Char :=
  if c = '"' then ['\\', '"']
  else if c = '\\' then ['\\', '\\']
  else if c = '\n' then ['\\', 'n']
  else if c = '\r' then ['\\', 'r']
  else if c = '\t' then ['\\', 't']
  else if c = '\x08' then ['\\', 'b']
  else if c = '\x0c' then ['\\', 'f']
  else if c.toNat < 0x20 then
    ['\\', 'u', '0', '0', hexDigit (c.toNat / 16), hexDigit (c.toNat % 16)]
  else [c]

/-- A JSON text between its quotes. -/
def renderText (s : String) : List Char := '"' :: s.toList.flatMap escapeChar ++ ['"']

/-- The decimal digits of an integer. -/
def renderInt : Int → List Char
  | .ofNat n => Nat.toDigits 10 n
  | .negSucc n => '-' :: Nat.toDigits 10 (n + 1)

/-- `true` or `false`. -/
def renderBool (b : Bool) : List Char :=
  if b then ['t', 'r', 'u', 'e'] else ['f', 'a', 'l', 's', 'e']

mutual
/-- The characters of a value, without blanks. -/
def renderChars : Json → List Char
  | .null => ['n', 'u', 'l', 'l']
  | .bool b => renderBool b
  | .number n => renderInt n
  | .text s => renderText s
  | .array [] => ['[', ']']
  | .array (v :: vs) => '[' :: renderChars v ++ renderItems vs
  | .object [] => ['\x7b', '\x7d']
  | .object ((k, v) :: ms) => '\x7b' :: renderText k ++ ':' :: renderChars v ++ renderMembers ms

/-- The items of an array after the first, and the closing bracket. -/
def renderItems : List Json → List Char
  | [] => [']']
  | v :: vs => ',' :: renderChars v ++ renderItems vs

/-- The members of an object after the first, and the closing brace. -/
def renderMembers : List (String × Json) → List Char
  | [] => ['\x7d']
  | (k, v) :: ms => ',' :: renderText k ++ ':' :: renderChars v ++ renderMembers ms
end

/-- The compact text of a value. -/
def render (j : Json) : String := String.ofList j.renderChars

end Json
end Casework
