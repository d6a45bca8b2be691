/-!
# Double-precision numbers

Every finite double is a whole number of *units* of `2 ^ -1074`, so a finite double is a sign and a
count of units; the sign matters for zero alone.  Conversions round to the nearest double, a tie to
the even neighbour, and all arithmetic is exact on natural numbers.
-/

namespace CardHealth

/-- A double-precision number. -/
inductive Binary64 where
  | nan
  | infinity (negative : Bool)
  /-- The number `units · 2 ^ -1074`, or its opposite. -/
  | finite (negative : Bool) (units : Nat)
  deriving DecidableEq, Repr, Inhabited

namespace Binary64

/-- The number of units in one. -/
def one : Nat := Nat.pow 2 1074

/-- The least number of units that no finite double has. -/
def limit : Nat := Nat.pow 2 2098

/-- The number of binary digits of a significand. -/
def precision : Nat := 53

/-- The quotient of two numbers rounded to the nearest whole number, a tie to the even one. -/
def roundDiv (num den : Nat) : Nat :=
  let q := num / den
  let r := num % den
  if 2 * r < den then q
  else if den < 2 * r then q + 1
  else q + q % 2

/-- The distance between neighbouring doubles near a count of units. -/
def spacing (units : Nat) : Nat :=
  Nat.pow 2 (units.log2 + 1 - precision)

/-- The double's count of units nearest to `num / den` units. -/
def roundUnits (num den : Nat) : Nat :=
  let step := spacing (num / den)
  roundDiv num (den * step) * step

/-- The double with a sign and a count of units, which is infinite from `limit` on. -/
def ofUnits (negative : Bool) (units : Nat) : Binary64 :=
  if units < limit then .finite negative units else .infinity negative

/-- The double nearest to `num / den` with a sign; `den` is not zero. -/
def ofRatio (negative : Bool) (num den : Nat) : Binary64 :=
  ofUnits negative (roundUnits (num * one) den)

/-- The double nearest to an integer. -/
def ofInt (n : Int) : Binary64 :=
  ofRatio (n < 0) n.natAbs 1

/-- Positive zero. -/
def zero : Binary64 :=
  .finite false 0

/-- Whether a number is neither infinite nor nan. -/
def isFinite : Binary64 → Bool
  | .finite _ _ => true
  | _ => false

/-- The signed count of units of a finite double. -/
def signedUnits (negative : Bool) (units : Nat) : Int :=
  if negative then -(units : Int) else units

/-- The integer that a double is equal to. -/
def toInt? : Binary64 → Option Int
  | .finite negative units =>
    if units % one == 0 then some (signedUnits negative (units / one)) else none
  | _ => none

/-- The sum of two doubles, rounded. -/
def add : Binary64 → Binary64 → Binary64
  | .nan, _ | _, .nan => .nan
  | .infinity a, .infinity b => if a == b then .infinity a else .nan
  | .infinity a, _ | _, .infinity a => .infinity a
  | .finite a m, .finite b n =>
    let sum := signedUnits a m + signedUnits b n
    if sum == 0 then .finite (a && b) 0
    else ofUnits (sum < 0) (roundUnits sum.natAbs 1)

/-- The order of two doubles that are not nan; both zeros are equal. -/
def compare : Binary64 → Binary64 → Ordering
  | .infinity a, .infinity b => Ord.compare b a
  | .infinity a, _ => if a then .lt else .gt
  | _, .infinity b => if b then .gt else .lt
  | .finite a m, .finite b n => Ord.compare (signedUnits a m) (signedUnits b n)
  | .nan, .nan => .eq
  | .nan, _ => .lt
  | _, .nan => .gt

/-- The exact order of a double that is not nan and an integer. -/
def compareInt : Binary64 → Int → Ordering
  | .infinity a, _ => if a then .lt else .gt
  | .finite a m, n => Ord.compare (signedUnits a m) (n * one)
  | .nan, _ => .lt

end Binary64

end CardHealth
