import CardHealth.Binary64.Shortest
import CardHealth.Numeral

/-!
# Doubles with a given number of digits

Three ways to write the magnitude of a finite double with a chosen precision, correctly rounded:
with that many places, with that many places and an exponent, and with that many significant digits
in whichever of the two ways suits its size.
-/

namespace CardHealth.Binary64

/-- Digits with a point before the last `places` of them; without places the point is only written
if `pointed`. -/
def withPoint (pointed : Bool) (places n : Nat) : List Char :=
  let digits := Numeral.padded (places + 1) n
  let whole := digits.take (digits.length - places)
  if places == 0 then if pointed then whole ++ ['.'] else whole
  else whole ++ '.' :: digits.drop (digits.length - places)

/-- The magnitude of `units` with a number of places. -/
def fixed (pointed : Bool) (places units : Nat) : List Char :=
  withPoint pointed places (roundDiv (units * Nat.pow 10 places) one)

/-- The magnitude of `units` as a whole number of `places + 1` digits and a decimal exponent. -/
def scaled (places units : Nat) : Nat × Int :=
  if units == 0 then (0, 0)
  else
    let top := decimalExponent units
    let (step, den) := scaleTen one (top - places)
    let n := roundDiv (units * den) step
    if n == Nat.pow 10 (places + 1) then (Nat.pow 10 places, top + 1) else (n, top)

/-- The letter `e`, a sign and an exponent of at least two digits. -/
def exponentText (exponent : Int) : List Char :=
  'e' :: (if exponent < 0 then '-' else '+') :: Numeral.padded 2 exponent.natAbs

/-- The magnitude of `units` with a number of places and an exponent. -/
def exponential (pointed : Bool) (places units : Nat) : List Char :=
  let (n, exponent) := scaled places units
  withPoint pointed places n ++ exponentText exponent

/-- Drops zeros at the end of digits with a point, and then the point. -/
def dropTrailingZeros (s : List Char) : List Char :=
  if s.contains '.' then Text.dropTailWhile (· == '.') (Text.dropTailWhile (· == '0') s) else s

/-- The magnitude of `units` with a number of significant digits; zeros at the end are kept only if
`pointed`. -/
def general (pointed : Bool) (digits units : Nat) : List Char :=
  let digits := max digits 1
  let (n, exponent) := scaled (digits - 1) units
  let trim (s : List Char) : List Char := if pointed then s else dropTrailingZeros s
  if -4 ≤ exponent ∧ exponent < digits then
    trim (fixed pointed (digits - 1 - exponent).toNat units)
  else trim (withPoint pointed (digits - 1) n) ++ exponentText exponent

end CardHealth.Binary64
