/-
# Reading TOML documents

`Toml.parse?` gives the tree of a document, `none` if it is not well-formed. Lines are taken one
after the other; a header line closes the table before it and opens its own.
-/

import Casework.Toml.Token

namespace Casework
namespace Toml

/-- The word, and not the beginning of a longer one: what follows a value is checked by whoever
asked for it. -/
def word (letters : List Char) (n : Node) : Scan Node := fun cs =>
  if cs.take letters.length = letters then some (n, cs.drop letters.length) else none

/-- A value that is neither text, array nor table. -/
def scalar : Scan Node := fun cs =>
  match cs with
  | 't' :: _ => word ['t', 'r', 'u', 'e'] (.boolean true) cs
  | 'f' :: _ => word ['f', 'a', 'l', 's', 'e'] (.boolean false) cs
  | '0' :: 'x' :: rest => basedInteger 16 (fun c => (Text.hexValue? c).isSome) rest
  | '0' :: 'o' :: rest => basedInteger 8 (fun c => '0' ≤ c && c ≤ '7') rest
  | '0' :: 'b' :: rest => basedInteger 2 (fun c => c == '0' || c == '1') rest
  | _ =>
    if beginsTime cs || beginsDate cs then
      (moment cs).map fun rest =>
        (.moment (String.ofList (cs.take (cs.length - rest.length))), rest)
    else decimal cs

mutual
/-- A value; `depth` is how many more values may stand inside one another. -/
def value : Nat → Nat → Scan Node
  | 0, _, _ => none
  | fuel + 1, depth, cs =>
    match cs with
    | '"' :: _ => (text cs).map fun (s, rest) => (.text s, rest)
    | '\'' :: _ => (text cs).map fun (s, rest) => (.text s, rest)
    | '[' :: rest =>
      match depth with
      | 0 => none
      | depth + 1 =>
        match skipLines rest.length rest with
        | ']' :: rest => some (.array [], rest)
        | rest => (items fuel depth rest).map fun (vs, rest) => (.array vs, rest)
    | '\x7b' :: rest =>
      match depth with
      | 0 => none
      | depth + 1 =>
        match skipBlanks rest with
        | '\x7d' :: rest => some (.table .inline [], rest)
        | rest => (members fuel depth [] rest).map fun (es, rest) => (.table .inline es, rest)
    | _ => scalar cs

/-- The items of an array from the next one on, and the closing bracket; a comma may stand
before it. -/
def items : Nat → Nat → Scan (List Node)
  | 0, _, _ => none
  | fuel + 1, depth, cs =>
    match value fuel depth cs with
    | none => none
    | some (v, rest) =>
      match skipLines rest.length rest with
      | ']' :: rest => some ([v], rest)
      | ',' :: rest =>
        match skipLines rest.length rest with
        | ']' :: rest => some ([v], rest)
        | rest => (items fuel depth rest).map fun (vs, rest) => (v :: vs, rest)
      | _ => none

/-- The entries of an inline table from the next one on, and the closing brace. -/
def members : Nat → Nat → Entries → Scan Entries
  | 0, _, _, _ => none
  | fuel + 1, depth, es, cs =>
    match key cs with
    | none => none
    | some (path, rest) =>
      match rest with
      | '=' :: rest =>
        match value fuel depth (skipBlanks rest) with
        | none => none
        | some (v, rest) =>
          match es.addLine path.dropLast (path.getLast?.getD "") v with
          | none => none
          | some es =>
            match skipBlanks rest with
            | '\x7d' :: rest => some (es, rest)
            | ',' :: rest => members fuel depth es rest
            | _ => none
      | _ => none
end

/-- The document so far: the tables that are closed, and the open one with its header. -/
structure Document where
  /-- The entries of the closed tables. -/
  root : Entries := []
  /-- The header of the open table; the empty path is the document itself. -/
  header : List String := []
  /-- The header is one of `[[…]]`. -/
  element : Bool := false
  /-- The entries of the open table. -/
  entries : Entries := []

namespace Document

/-- The document with the open table put in its place. -/
def close (d : Document) : Option Entries :=
  match d.header.getLast? with
  | none => some d.entries
  | some name =>
    d.root.modify .implicit d.header.dropLast fun es =>
      match d.element, es.find? name with
      | true, none => some (es.set name (.tables [d.entries]))
      | true, some (.tables items) => some (es.set name (.tables (items ++ [d.entries])))
      | true, some _ => none
      | false, _ => some (es.set name (.table .explicit d.entries))

/-- Opens the table of a header `[path]`. A table that longer headers have made is taken up
again. -/
def openTable (d : Document) (path : List String) : Option Document := do
  let root ← d.close
  let name ← path.getLast?
  let root ← root.modify .implicit path.dropLast some
  let inside := find path.dropLast root
  match inside.find? name with
  | none => some ⟨root, path, false, []⟩
  | some (.table .implicit es) => some ⟨root, path, false, es⟩
  | some _ => none
where
  /-- The entries that a path leads to. -/
  find : List String → Entries → Entries
    | [], es => es
    | key :: path, es =>
      match es.find? key with
      | some (.table _ t) => find path t
      | some (.tables items) => find path (items.getLast?.getD [])
      | _ => []

/-- Opens a further table of a header `[[path]]`. -/
def openElement (d : Document) (path : List String) : Option Document := do
  let root ← d.close
  let name ← path.getLast?
  let root ← root.modify .implicit path.dropLast some
  match (openTable.find path.dropLast root).find? name with
  | none => some ⟨root, path, true, []⟩
  | some (.tables _) => some ⟨root, path, true, []⟩
  | some _ => none

/-- Adds a key-value line to the open table. -/
def addLine (d : Document) (path : List String) (n : Node) : Option Document :=
  (d.entries.addLine path.dropLast (path.getLast?.getD "") n).map fun es => { d with entries := es }

end Document

/-- One line that is not blank: a header or a key with its value. -/
def line (d : Document) (cs : List Char) : Option (Document × List Char) :=
  match cs with
  | '[' :: '[' :: rest => do
    let (path, rest) ← key rest
    let rest ← mark ']' rest >>= mark ']' >>= endLine
    some (← d.openElement path, rest)
  | '[' :: rest => do
    let (path, rest) ← key rest
    let rest ← mark ']' rest >>= endLine
    some (← d.openTable path, rest)
  | _ => do
    let (path, rest) ← key cs
    let rest ← mark '=' rest
    let (v, rest) ← value (2 * rest.length + 2) (depthLimit - 1) (skipBlanks rest)
    let rest ← endLine rest
    some (← d.addLine path v, rest)

/-- The lines of a document one after the other. -/
def lines : Nat → Document → List Char → Option Entries
  | 0, _, _ => none
  | fuel + 1, d, cs =>
    match skipLines cs.length cs with
    | [] => d.close
    | rest =>
      match rest with
      | '#' :: _ => if (skipComment rest).isEmpty then d.close else none
      | _ =>
        match line d rest with
        | some (d, rest) => lines fuel d rest
        | none => none

/-- The tree of a document; a byte-order mark at its front is skipped. -/
def parse? (s : String) : Option Entries :=
  let cs := match s.toList with
    | '\uFEFF' :: cs => cs
    | cs => cs
  lines (cs.length + 1) {} cs

end Toml
end Casework
