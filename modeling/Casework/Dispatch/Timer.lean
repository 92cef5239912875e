/-
# Interval timers

A timer fires at its deadline and then once per interval. Time is counted in milliseconds. A
timer that is looked at late fires once, however many deadlines have passed; if it was late by
more than the tolerance, the next deadline is one interval after that moment, otherwise one
interval after the deadline.
-/

namespace Casework

/-- A timer with its next deadline. -/
structure Timer where
  interval : Nat
  deadline : Nat
deriving DecidableEq, Repr

namespace Timer

/-- How late a timer may be without its beat shifting, in milliseconds. -/
def tolerance : Nat := 5

/-- The last moment that a clock can show, in milliseconds. -/
def horizon : Nat := Nat.pow 2 63 * 1000

/-- A timer whose first deadline is the given moment; there is none without an interval. -/
def start? (interval first : Nat) : Option Timer :=
  if interval = 0 ∨ horizon ≤ first then none else some ⟨interval, first⟩

/-- The timer is due. -/
def isDue (t : Timer) (now : Nat) : Bool := t.deadline ≤ now

/-- The timer after it fired. -/
def advance (t : Timer) (now : Nat) : Timer :=
  { t with deadline := (if t.deadline + tolerance < now then now else t.deadline) + t.interval }

end Timer
end Casework
