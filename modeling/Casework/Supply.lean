/-
# Fresh names and clock readings

Jobs, streams, servers and artifacts are named by fresh identifiers, and rows are stamped with
the present time. A supply hands out both: it says which identifier comes `n`-th and what the
clock shows at the `n`-th reading, and counts how many have been used. Nothing is assumed about
them here; that identifiers are distinct is a property of the supply (`Supply.Fresh`).
-/

import Casework.Timestamp.Basic

namespace Casework

/-- Where fresh identifiers and clock readings come from. -/
structure Supply where
  /-- The identifier that is handed out `n`-th. -/
  ident : Nat → String
  /-- What the clock shows at the `n`-th reading. -/
  clock : Nat → Timestamp
  /-- How many identifiers have been handed out. -/
  used : Nat := 0
  /-- How often the clock has been read. -/
  readings : Nat := 0

namespace Supply

/-- No identifier is handed out twice. -/
def Fresh (s : Supply) : Prop := ∀ m n, s.ident m = s.ident n → m = n

/-- The next identifier. -/
def next (s : Supply) : String × Supply := (s.ident s.used, { s with used := s.used + 1 })

/-- The present time. -/
def now (s : Supply) : Timestamp × Supply :=
  (s.clock s.readings, { s with readings := s.readings + 1 })

/-- Half of an identifier: 16 lower-case hexadecimal digits. -/
def halfText (n : Nat) : String :=
  let ds := Nat.toDigits 16 (n % Nat.pow 2 64)
  String.ofList (List.replicate (16 - ds.length) '0' ++ ds)

/-- Identifiers spread over all values from a seed, and a clock that starts at a moment and gains
a microsecond with every reading. -/
def seeded (seed : Nat) (start : Timestamp) : Supply where
  ident n :=
    halfText ((seed + n) * 0x9E3779B97F4A7C15) ++ halfText ((seed + n) * 0xC2B2AE3D27D4EB4F)
  clock n := start.later (n * 1000)

end Supply
end Casework
