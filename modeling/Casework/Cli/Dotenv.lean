/-
# Variables from a `.env` file

A file `.env` in the working directory, or in the nearest directory above that has one, sets
variables that are not set already:

    # a comment
    NAME=value            # another one
    export NAME="a value with $OTHER in it"
    NAME='taken as it stands: $OTHER'

A value ends at a blank; after it only a comment may follow. Outside single quotes `\` takes
away the meaning of the next character, and `$NAME`, or a name in braces after the `$`, stands
for the value that a variable has by then. A quoted value may go over several lines. Reading
stops at the first line that is not well-formed; what stands before it counts.
-/

import Casework.Config.Environment
import Casework.Host.FileTree

namespace Casework
namespace Dotenv

open Text

/-! ## Logical lines -/

/-- Where a line stands between two of its characters. -/
inductive LineState where
  | plain
  | blank
  | escaped
  | weak
  | weakEscaped
  | strong
  | strongEscaped
deriving DecidableEq, Repr

/-- The state after a character outside quotes. -/
def outside (c : Char) : LineState :=
  if c = '\\' then .escaped
  else if c = '"' then .weak
  else if c = '\'' then .strong
  else .plain

/-- The state after one more character, `none` where a comment begins. -/
def LineState.step (s : LineState) (c : Char) : Option LineState :=
  match s with
  | .blank => if c = '#' then none else some (outside c)
  | .escaped => some .plain
  | .plain =>
    if isBlank c && c != '\n' && c != '\r' then some .blank else some (outside c)
  | .weak => some (if c = '\\' then .weakEscaped else if c = '"' then .plain else .weak)
  | .weakEscaped => some .weak
  | .strong => some (if c = '\\' then .strongEscaped else if c = '\'' then .plain else .strong)
  | .strongEscaped => some .strong

/-- The characters of a physical line that count, with the state at its end; `none` for the state
when a comment ended it. -/
def scanLine (s : LineState) : List Char → List Char × Option LineState
  | [] => ([], some s)
  | c :: cs =>
    match s.step c with
    | none => ([], none)
    | some s =>
      let (kept, s) := scanLine s cs
      (c :: kept, s)

/-- The physical lines of a text, each with its line feed. -/
def physicalLines : List Char → List (List Char)
  | [] => []
  | c :: cs =>
    if c = '\n' then [c] :: physicalLines cs
    else
      match physicalLines cs with
      | [] => [[c]]
      | l :: ls => (c :: l) :: ls

/-- The logical lines: physical ones, joined as long as a quote is open. `none` marks the end of
a text in the middle of a line. -/
def logicalLines (held : List Char) (s : LineState) :
    List (List Char) → List (Option (List Char))
  | [] => if s = .plain then [] else [none]
  | line :: rest =>
    if (trimStart (held ++ line)).head? = some '#' then some [] :: logicalLines [] .plain rest
    else
      let (kept, after) := scanLine s line
      match after with
      | none => some (held ++ kept) :: logicalLines [] .plain rest
      | some .plain => some (held ++ kept) :: logicalLines [] .plain rest
      | some s => logicalLines (held ++ kept) s rest

/-! ## Values -/

/-- Which part of a value is being read. -/
inductive ValueMode where
  | plain
  | weak
  | strong
  /-- A comment or the end is due. -/
  | ended
  /-- The name after a `$`. -/
  | name (quoted : Bool) (letters : List Char)
  /-- The name after a `$` and a brace. -/
  | braced (quoted : Bool) (letters : List Char)
  /-- After a `\`. -/
  | escaped (quoted : Bool)
deriving DecidableEq, Repr

/-- The mode to go on with after a name or an escape. -/
def resume (quoted : Bool) : ValueMode := if quoted then .weak else .plain

/-- A character that a variable's name may have after a `$`. -/
def isNameChar (c : Char) : Bool := c.isAlphanum || (0x7F < c.toNat && !isBlank c)

/-- The value of a variable, nothing if it is not set. -/
def expand (known : Environment) (letters : List Char) : List Char :=
  ((known.get? (String.ofList letters)).getD "").toList

/-- A character that keeps its usual meaning: nothing special is open. -/
def openMode (quoted : Bool) (c : Char) : ValueMode × List Char :=
  if c = '$' then (.name quoted [], [])
  else if c = '\\' then (.escaped quoted, [])
  else if c = '"' then (resume (!quoted), [])
  else if quoted then (.weak, [c])
  else if c = '\'' then (.strong, [])
  else if c = ' ' ∨ c = '\t' then (.ended, [])
  else (.plain, [c])

/-- One more character of a value: the new mode and the characters that it adds; `none` if the
character cannot stand there, and `ended` with `#` is the start of a comment. -/
def ValueMode.step (known : Environment) (m : ValueMode) (c : Char) :
    Option (ValueMode × List Char) :=
  match m with
  | .ended => if c = ' ' ∨ c = '\t' then some (.ended, []) else none
  | .escaped quoted =>
    if ['\\', '\'', '"', '$', ' '].contains c then some (resume quoted, [c])
    else if c = 'n' then some (resume quoted, ['\n'])
    else none
  | .strong => some (if c = '\'' then (.plain, []) else (.strong, [c]))
  | .name quoted letters =>
    if isNameChar c then some (.name quoted (letters ++ [c]), [])
    else if c = '\x7b' ∧ letters.isEmpty then some (.braced quoted [], [])
    else if c = '$' then some (.name quoted [], expand known letters)
    else some (resume quoted, expand known letters ++ [c])
  | .braced quoted letters =>
    if c = '\x7d' then some (resume quoted, expand known letters)
    else some (.braced quoted (letters ++ [c]), [])
  | .weak => some (openMode true c)
  | .plain => some (openMode false c)

/-- The characters of a value, `none` if it is not well-formed. -/
def readValue (known : Environment) (m : ValueMode) : List Char → Option (List Char)
  | [] =>
    match m with
    | .plain => some []
    | .ended => some []
    | .escaped false => some []
    | .name false letters => some (expand known letters)
    | _ => none
  | c :: cs =>
    if m = .ended ∧ c = '#' then some []
    else
      match m.step known c with
      | none => none
      | some (m, added) => (readValue known m cs).map (added ++ ·)

/-! ## Settings -/

/-- A character that a variable's name may begin with. -/
def isKeyStart (c : Char) : Bool := c.isAlpha || c == '_'

/-- A character that a variable's name may have. -/
def isKeyChar (c : Char) : Bool := c.isAlphanum || c == '_' || c == '.'

/-- A name at the front, and what follows it and the blanks behind it. -/
def key? (cs : List Char) : Option (List Char × List Char) :=
  if cs.head?.any isKeyStart then
    let key := cs.takeWhile isKeyChar
    some (key, trimStart (cs.drop key.length))
  else none

/-- Name and rest after the equals sign; `export` may stand in front of the name. -/
def keyAndRest? (cs : List Char) : Option (List Char × List Char) :=
  match key? cs with
  | none => none
  | some (key, '=' :: rest) => some (key, rest)
  | some (key, rest) =>
    if key = "export".toList then
      match key? rest with
      | some (key, '=' :: rest) => some (key, rest)
      | _ => none
    else none

/-- A setting of a logical line, `none` for the setting if the line has none; `none` if the line
is not well-formed. `known` are the variables that names in the value stand for. -/
def readLine? (known : Environment) (line : List Char) : Option (Option (String × String)) :=
  let cs := trimStart (trimEnd line)
  if cs.isEmpty ∨ cs.head? = some '#' then some none
  else
    match keyAndRest? cs with
    | none => none
    | some (key, rest) =>
      let rest := trimStart rest
      if rest.isEmpty ∨ rest.head? = some '#' then some (some (String.ofList key, ""))
      else
        (readValue known .plain rest).map fun value =>
          some (String.ofList key, String.ofList value)

/-- The environment after the settings of logical lines, up to the first that is not
well-formed. What is set already stays as it is, so the first setting of a name counts. -/
def readLines (env : Environment) : List (Option (List Char)) → Environment
  | some line :: rest =>
    match readLine? env line with
    | none => env
    | some none => readLines env rest
    | some (some setting) => readLines (env ++ [setting]) rest
  | _ => env

/-- The environment with the settings of a text. -/
def extend (env : Environment) (s : String) : Environment :=
  let cs := match s.toList with
    | '\uFEFF' :: cs => cs
    | cs => cs
  readLines env (logicalLines [] .plain (physicalLines cs))

/-- The text of the nearest `.env` file from a place upwards. -/
def find? (files : FileTree) : List Place → Option String
  | [] => none
  | p :: ps =>
    match files.entryAt? (p ++ [".env"]) with
    | some (.file s) => some s
    | _ => find? files ps

/-- The environment of a program that starts in the home directory of the files. -/
def load (files : FileTree) (env : Environment) : Environment :=
  let above := (List.range (files.home.length + 1)).map fun n =>
    files.home.take (files.home.length - n)
  match find? files above with
  | some s => extend env s
  | none => env

end Dotenv
end Casework
