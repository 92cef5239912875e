/-
# Where a store is

A store is named by an address: `sqlite://` and the path of a file, percent-decoded, with
options behind a question mark. `:memory:`, an empty path and the option `mode=memory` name a
store that lasts as long as the program.
-/

import Casework.Error
import Casework.Text.Percent

namespace Casework

open Text

/-- Where a store is. -/
inductive StoreLocation where
  /-- In memory, for the time being. -/
  | memory
  /-- In the file at a path. -/
  | file (path : String)
deriving DecidableEq, Repr

namespace StoreLocation

/-- Drops a front part as often as it stands there. -/
def dropFront (front : List Char) : Nat → List Char → List Char
  | 0, cs => cs
  | fuel + 1, cs =>
    if front.isPrefixOf cs then dropFront front fuel (cs.drop front.length) else cs

/-- The values that an option may have; an unknown option has none. -/
def optionValues : String → List String
  | "mode" => ["ro", "rw", "rwc", "memory"]
  | "cache" => ["private", "shared"]
  | "immutable" => ["true", "1", "false", "0"]
  | _ => []

/-- The location that an address names. -/
def parse (address : String) : Except Error StoreLocation :=
  let cs := dropFront "sqlite://".toList address.length address.toList
  let cs := dropFront "sqlite:".toList address.length cs
  let path := cs.takeWhile (· != '?')
  let options := formPairs (String.ofList (cs.drop (path.length + 1)))
  match decode? (percentDecode (encodeChars path)) with
  | none => .error (.store "error with configuration: invalid utf-8 sequence")
  | some path =>
    if options.any fun o => !(optionValues o.1).contains o.2 then
      .error (.store "error with configuration: unknown option")
    else if path == "" || path == ":memory:" || options.contains ("mode", "memory") then
      .ok .memory
    else .ok (.file path)

end StoreLocation
end Casework
