/-
# Command lines

A command line names a command, group by group, and then gives its arguments: values in a fixed
order and options `--name`. An option that takes a value has it behind `=` or as the next
argument. Every value is required, every option may be left out and be given once.

| argument | meaning |
| --- | --- |
| `--` | everything after it is a value |
| `--name`, `--name=value` | an option |
| `-` | a value |
| `-h`, `--help`, and `help` where a command is due | asks for help |
| `-x` | refused |

The value of an option cannot begin with a hyphen unless it stands behind `=` or is `-` alone.
-/

import Casework.Net.Address

namespace Casework
namespace Cli

open Text

/-- What an option takes. -/
inductive ValueKind where
  /-- Nothing: it is there or not. -/
  | none
  | text
  /-- A path, which is not empty. -/
  | path
  /-- A signed 64-bit number. -/
  | integer
  /-- An unsigned 64-bit number. -/
  | count
  /-- An address with a port. -/
  | address
deriving DecidableEq, Repr

/-- A value of the kind. -/
def ValueKind.accepts (k : ValueKind) (s : String) : Bool :=
  match k with
  | .none => false
  | .text => true
  | .path => s != ""
  | .integer => (readSigned maxI64 s).isOk
  | .count => (readUnsigned maxU64 s).isOk
  | .address => (SocketAddress.parse? s).isSome

/-- The arguments of a command: how many values it has, and its options. -/
structure Signature where
  values : Nat
  options : List (String × ValueKind) := []
deriving DecidableEq, Repr

/-- Why a command line is not a command. -/
inductive Usage where
  /-- Help was asked for. -/
  | help
  /-- It does not follow the rules. -/
  | wrong
deriving DecidableEq, Repr

/-- The arguments of a command line: values in order, and options with their values. -/
structure Arguments where
  values : List String := []
  options : List (String × String) := []
deriving DecidableEq, Repr

namespace Arguments

/-- The value of an option. -/
def option? (a : Arguments) (name : String) : Option String :=
  (a.options.find? fun o => o.1 == name).map Prod.snd

/-- The option was given. -/
def has (a : Arguments) (name : String) : Bool := (a.option? name).isSome

/-- Adds an option; none is given twice. -/
def addOption (a : Arguments) (name value : String) : Except Usage Arguments :=
  if a.has name then .error .wrong else .ok { a with options := a.options ++ [(name, value)] }

/-- Adds an option whose value has to be of the kind. -/
def addValue (a : Arguments) (kind : ValueKind) (name value : String) : Except Usage Arguments :=
  if kind.accepts value then a.addOption name value else .error .wrong

/-- Adds the value that comes next. -/
def addNext (a : Arguments) (value : String) : Arguments := { a with values := a.values ++ [value] }

end Arguments

/-- What an argument looks like. -/
inductive Shape where
  /-- The two hyphens alone. -/
  | escape
  /-- An option with what stands behind its `=`. -/
  | long (name : String) (value? : Option String)
  /-- A hyphen with letters. -/
  | short (letters : List Char)
  | plain
deriving DecidableEq, Repr

/-- The shape of an argument. -/
def shapeOf (arg : String) : Shape :=
  match arg.toList with
  | ['-', '-'] => .escape
  | '-' :: '-' :: rest =>
    let name := rest.takeWhile (· != '=')
    .long (String.ofList name)
      (if name.length < rest.length then some (String.ofList (rest.drop (name.length + 1)))
      else none)
  | ['-'] => .plain
  | '-' :: rest => .short rest
  | _ => .plain

/-- The arguments before they were counted. -/
def readArguments (sig : Signature) : List String → Arguments → Except Usage Arguments
  | [], a => .ok a
  | arg :: rest, a =>
    match shapeOf arg with
    | .plain => readArguments sig rest (a.addNext arg)
    | .escape => .ok { a with values := a.values ++ rest }
    | .short letters => .error (if letters.head? = some 'h' then .help else .wrong)
    | .long name value? =>
      if name = "help" ∧ value?.isNone then .error .help
      else
        match sig.options.find? fun o => o.1 == name, value? with
        | none, _ => .error .wrong
        | some (_, .none), some _ => .error .wrong
        | some (_, .none), none =>
          match a.addOption name "" with
          | .error e => .error e
          | .ok a => readArguments sig rest a
        | some (_, kind), some value =>
          match a.addValue kind name value with
          | .error e => .error e
          | .ok a => readArguments sig rest a
        | some (_, kind), none =>
          match rest with
          | value :: rest =>
            if shapeOf value = .plain then
              match a.addValue kind name value with
              | .error e => .error e
              | .ok a => readArguments sig rest a
            else .error .wrong
          | [] => .error .wrong

/-- The arguments of a command with this signature. -/
def Signature.read (sig : Signature) (args : List String) : Except Usage Arguments :=
  match readArguments sig args {} with
  | .error e => .error e
  | .ok a => if a.values.length = sig.values then .ok a else .error .wrong

/-- Takes the name of a command off a command line. -/
def takeName (names : List String) : List String → Except Usage (String × List String)
  | [] => .error .wrong
  | arg :: rest =>
    if names.contains arg then .ok (arg, rest)
    else if arg = "help" ∨ arg = "--help" ∨ arg.toList.take 2 = ['-', 'h'] then .error .help
    else .error .wrong

end Cli
end Casework
