/-
# The shortest decimal of a floating-point number

A finite double is `m · 2 ^ q`. The decimal that stands for it has the fewest digits among
those that lie in the interval of reals rounding to it, and among these it is the nearest. For
each count of digits the two neighbours of the number on that decimal grid are tried, in exact
arithmetic; seventeen digits always suffice.
-/

namespace Casework
namespace Decimal

/-- A positive decimal `digits · 10 ^ exponent`. -/
structure Scientific where
  digits : Nat
  exponent : Int
deriving DecidableEq, Repr

/-- A fraction of natural numbers. -/
structure Ratio where
  num : Nat
  den : Nat

/-- One fraction is below another, or equal where `closed` allows it. -/
def Ratio.below (closed : Bool) (a b : Ratio) : Bool :=
  let l := a.num * b.den
  let r := b.num * a.den
  if closed then l ≤ r else l < r

/-- `n · b ^ e` as a fraction. -/
def Ratio.scaled (n b : Nat) (e : Int) : Ratio :=
  if 0 ≤ e then ⟨n * Nat.pow b e.toNat, 1⟩ else ⟨n, Nat.pow b e.natAbs⟩

/-- The distance between two fractions. -/
def Ratio.distance (a b : Ratio) : Ratio :=
  let l := a.num * b.den
  let r := b.num * a.den
  ⟨if l ≤ r then r - l else l - r, a.den * b.den⟩

/-- A positive double with the reals that round to it. -/
structure Rounded where
  value : Ratio
  low : Ratio
  high : Ratio
  /-- The ends of the interval belong to it. -/
  closed : Bool

/-- The double with fraction bits `m` and biased exponent `e`, not both zero. -/
def Rounded.ofBits (e m : Nat) : Rounded :=
  let mant := if e = 0 then m else m + Nat.pow 2 52
  let q : Int := if e = 0 then -1074 else e - 1075
  let tight := m = 0 ∧ 1 < e
  ⟨Ratio.scaled (4 * mant) 2 (q - 2),
    Ratio.scaled (if tight then 4 * mant - 1 else 4 * mant - 2) 2 (q - 2),
    Ratio.scaled (4 * mant + 2) 2 (q - 2), mant % 2 == 0⟩

/-- The decimal lies in the interval. -/
def Rounded.holds (r : Rounded) (d : Scientific) : Bool :=
  let v := Ratio.scaled d.digits 10 d.exponent
  r.low.below r.closed v && v.below r.closed r.high

/-- The decimal of the grid `10 ^ exponent` that stands for the number: of its two neighbours
the one in the interval, the nearer if both are, the even one if they are equally near. -/
def Rounded.onGrid? (r : Rounded) (exponent : Int) : Option Scientific :=
  let unit := Ratio.scaled 1 10 exponent
  let k := r.value.num * unit.den / (r.value.den * unit.num)
  let down : Scientific := ⟨k, exponent⟩
  let up : Scientific := ⟨k + 1, exponent⟩
  match k != 0 && r.holds down, r.holds up with
  | false, false => none
  | true, false => some down
  | false, true => some up
  | true, true =>
    let dd := r.value.distance (Ratio.scaled k 10 exponent)
    let du := (Ratio.scaled (k + 1) 10 exponent).distance r.value
    if dd.below false du then some down
    else if du.below false dd then some up
    else some (if k % 2 = 0 then down else up)

/-- Drops the zeros at the end of the digits. -/
def Scientific.trimmed (d : Scientific) : Nat → Scientific
  | 0 => d
  | fuel + 1 =>
    if d.digits ≠ 0 ∧ d.digits % 10 = 0 then
      Scientific.trimmed ⟨d.digits / 10, d.exponent + 1⟩ fuel
    else d

/-- The exponent of ten of the leading digit: the number is at least `10 ^ p` and below
`10 ^ (p + 1)`. -/
def Ratio.magnitude (v : Ratio) : Int :=
  let guess : Int := (Nat.toDigits 10 v.num).length - (Nat.toDigits 10 v.den).length
  if (Ratio.scaled 1 10 guess).below true v then guess else guess - 1

/-- Tries `count` digits, then one more, until a decimal is found. -/
def Rounded.search (r : Rounded) (top : Int) (count : Nat) : Nat → Option Scientific
  | 0 => none
  | fuel + 1 =>
    match r.onGrid? (top + 1 - count) with
    | some d => some (d.trimmed 400)
    | none => r.search top (count + 1) fuel

/-- The shortest decimal of the double with these bits, `none` for zero. -/
def shortest? (e m : Nat) : Option Scientific :=
  if e = 0 ∧ m = 0 then none
  else
    let r := Rounded.ofBits e m
    r.search r.value.magnitude 1 17

/-- The text of a decimal: positional as long as the point falls within the first sixteen
digits or at most four zeros follow it, otherwise with an exponent. -/
def Scientific.text (d : Scientific) : String :=
  let ds := Nat.toDigits 10 d.digits
  let len := ds.length
  let point : Int := len + d.exponent
  if 0 ≤ d.exponent ∧ point ≤ 16 then
    String.ofList (ds ++ List.replicate d.exponent.toNat '0') ++ ".0"
  else if 0 < point ∧ point ≤ 16 then
    String.ofList (ds.take point.toNat) ++ "." ++ String.ofList (ds.drop point.toNat)
  else if -5 < point ∧ point ≤ 0 then
    "0." ++ String.ofList (List.replicate point.natAbs '0' ++ ds)
  else
    let exponent := toString (point - 1)
    if len = 1 then String.ofList ds ++ "e" ++ exponent
    else String.ofList (ds.take 1) ++ "." ++ String.ofList (ds.drop 1) ++ "e" ++ exponent

/-- The text of a finite double. -/
def floatText (x : Float) : String :=
  let bits := x.toBits.toNat
  let sign := if bits / Nat.pow 2 63 = 1 then "-" else ""
  match shortest? (bits / Nat.pow 2 52 % Nat.pow 2 11) (bits % Nat.pow 2 52) with
  | none => sign ++ "0.0"
  | some d => sign ++ d.text

end Decimal
end Casework
