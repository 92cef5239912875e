/-
# TOML documents as trees

A document is a table: entries in the order of their keys' first appearance. Tables come about
in four ways, and which one decides how they may be added to later:

| table | made by | may be added to |
| --- | --- | --- |
| explicit | `[a]`, or an element of `[[a]]` | under its header only |
| implicit | `[a.b]` makes `a` | by one header `[a]` |
| dotted | `a.b = 1` makes `a` | by dotted keys of the same table |
| inline | `a = {…}` | never |
-/

namespace Casework
namespace Toml

/-- How a table came about. -/
inductive Origin where
  | explicit
  | implicit
  | dotted
  | inline
deriving DecidableEq, Repr

/-- A value or table of a document. -/
inductive Node where
  | text (s : String)
  | integer (n : Int)
  | float (digits : String)
  | boolean (b : Bool)
  | moment (digits : String)
  | array (items : List Node)
  | table (origin : Origin) (entries : List (String × Node))
  /-- The tables under one `[[a]]`, in order. -/
  | tables (items : List (List (String × Node)))

/-- The entries of a table. -/
abbrev Entries := List (String × Node)

namespace Entries

/-- The entry of a key. -/
def find? (es : Entries) (key : String) : Option Node :=
  (List.find? (fun e => e.1 == key) es).map Prod.snd

/-- The entries with the key's entry replaced, or added at the end. -/
def set (es : Entries) (key : String) (n : Node) : Entries :=
  match es with
  | [] => [(key, n)]
  | e :: es => if e.1 = key then (key, n) :: es else e :: Entries.set es key n

/-- Changes the table that a path leads to from a table, making the tables on the way that are
missing, of origin `made`. A path leads on into the last element of `[[a]]`; dotted keys lead
only through tables that dotted keys or longer headers have made. -/
def modify (made : Origin) (path : List String) (change : Entries → Option Entries)
    (es : Entries) : Option Entries :=
  match path with
  | [] => change es
  | key :: path =>
    match es.find? key with
    | none => (modify made path change []).map fun t => es.set key (.table made t)
    | some (.table origin t) =>
      if origin = .inline ∨ (made = .dotted ∧ origin = .explicit) then none
      else (modify made path change t).map fun t => es.set key (.table origin t)
    | some (.tables items) =>
      match items.getLast? with
      | none => none
      | some t =>
        (modify made path change t).map fun t => es.set key (.tables (items.dropLast ++ [t]))
    | some _ => none

/-- Adds an entry for a new key. -/
def add (key : String) (n : Node) (es : Entries) : Option Entries :=
  match es.find? key with
  | none => some (es.set key n)
  | some _ => none

/-- The origin of the table that a key path of a key-value line leads to. -/
def originAt (es : Entries) : List String → Option Origin
  | [] => some .explicit
  | key :: path =>
    match es.find? key with
    | none => some .dotted
    | some (.table origin t) => if path.isEmpty then some origin else Entries.originAt t path
    | some (.tables items) =>
      if path.isEmpty then some .explicit else (items.getLast?).bind fun t => originAt t path
    | some _ => none

/-- Adds a key-value line: the path before the last key is made of dotted tables. -/
def addLine (path : List String) (key : String) (n : Node) (es : Entries) : Option Entries :=
  if path.isEmpty then es.add key n
  else
    match es.originAt path with
    | some .dotted => es.modify .dotted path fun t => Entries.add key n t
    | _ => none

end Entries
end Toml
end Casework
