import CardHealth.Binary64
import CardHealth.Text.Blank

/-!
# Decimal digits of a double

`Binary64.shortest` gives the fewest decimal digits that read back as the same double, and of those
the nearest to it; `Binary64.significant` gives a fixed number of digits, correctly rounded.  Both
work on exact fractions.
-/

namespace CardHealth

/-- The positive number `0.d₁d₂… · 10 ^ point`: its decimal digits, without zeros at the end, and
the place of its point. -/
structure DecimalDigits where
  digits : List Char
  point : Int
  deriving DecidableEq, Repr

namespace DecimalDigits

/-- The number `n · 10 ^ exponent`. -/
def ofScaled (n : Nat) (exponent : Int) : DecimalDigits :=
  let digits := Nat.toDigits 10 n
  ⟨Text.dropTailWhile (· == '0') digits, exponent + digits.length⟩

end DecimalDigits

namespace Binary64

/-- The decimal exponent of a positive count of units: the `k` with
`10 ^ k ≤ units / one < 10 ^ (k + 1)`. -/
def decimalExponent (units : Nat) : Int :=
  if one ≤ units then (Nat.toDigits 10 (units / one)).length - 1
  else
    match (List.range 325).find? fun j => one ≤ units * Nat.pow 10 j with
    | some j => -j
    | none => -325

/-- `n` scaled by ten to the exponent, as a fraction. -/
def scaleTen (n : Nat) (exponent : Int) : Nat × Nat :=
  if 0 ≤ exponent then (n * Nat.pow 10 exponent.toNat, 1) else (n, Nat.pow 10 (-exponent).toNat)

/-- The reals that read back as a count of units, in quarters of a unit: the two ends, and whether
they belong to it.  Below a power of two doubles stand twice as dense. -/
structure ReadingInterval where
  low : Nat
  high : Nat
  closed : Bool

/-- The reals that read back as a positive count of units. -/
def readingInterval (units : Nat) : ReadingInterval :=
  let step := spacing units
  let below := if units == Nat.pow 2 units.log2 && step > 1 then step else 2 * step
  ⟨4 * units - below, 4 * units + 2 * step, units / step % 2 == 0⟩

/-- Whether `n` quarters of a unit, divided by `den`, read back. -/
def ReadingInterval.contains (i : ReadingInterval) (n den : Nat) : Bool :=
  if i.closed then i.low * den ≤ n && n ≤ i.high * den
  else i.low * den < n && n < i.high * den

/-- The multiple of `10 ^ exponent` that reads back as a positive count of units, the nearest one
if both neighbours on that grid do. -/
def onGrid? (units : Nat) (exponent : Int) : Option Nat :=
  let interval := readingInterval units
  let (step, den) := scaleTen (4 * one) exponent
  let target := 4 * units * den
  let lower := target / step
  let upper := lower + 1
  let lowerFits := interval.contains (lower * step) den
  let upperFits := interval.contains (upper * step) den
  let lowerNearer :=
    let below := target - lower * step
    let above := upper * step - target
    below < above || (below == above && lower % 2 == 0)
  if lowerFits && (!upperFits || lowerNearer) then some lower
  else if upperFits then some upper
  else none

/-- The fewest digits that read back as a positive count of units; seventeen always do. -/
def shortest (units : Nat) : DecimalDigits :=
  let top := decimalExponent units
  match (List.range 17).findSome? fun (more : Nat) =>
      (onGrid? units (top - more)).map (DecimalDigits.ofScaled · (top - more)) with
  | some digits => digits
  | none => ⟨[], 0⟩

/-- A positive count of units to a number of significant digits, a tie to the greater neighbour. -/
def significant (places units : Nat) : DecimalDigits :=
  let exponent := decimalExponent units - (places - 1 : Nat)
  let (step, den) := scaleTen one exponent
  DecimalDigits.ofScaled ((2 * (units * den) + step) / (2 * step)) exponent

end Binary64

end CardHealth
