import CardHealth.Binary64.Shortest
import CardHealth.Numeral

/-!
# Text of a double

A `FloatLayout` fixes how digits become text: which exponents are written positionally, the look of
the exponent, and the words for nan and infinity.
-/

namespace CardHealth

/-- How a double is written. -/
structure FloatLayout where
  /-- The least decimal exponent of a number written positionally. -/
  least : Int
  /-- The greatest decimal exponent of a number written positionally. -/
  greatest : Int
  /-- The least number of digits of a written exponent. -/
  exponentWidth : Nat
  /-- Whether a lone digit before an exponent is followed by a point and a zero. -/
  pointedDigit : Bool
  /-- Whether the sign of zero is written. -/
  signedZero : Bool
  /-- The word for nan. -/
  nan : String
  /-- The word for positive infinity. -/
  infinity : String
  /-- The word for negative infinity. -/
  negativeInfinity : String

namespace FloatLayout

/-- `n` zeros. -/
def zeros (n : Nat) : List Char :=
  List.replicate n '0'

/-- Digits with a point and at least one digit on either side of it. -/
def positional (d : DecimalDigits) : List Char :=
  if d.point ≤ 0 then '0' :: '.' :: zeros (-d.point).toNat ++ d.digits
  else
    let whole := d.point.toNat
    if d.digits.length ≤ whole then d.digits ++ zeros (whole - d.digits.length) ++ ['.', '0']
    else d.digits.take whole ++ '.' :: d.digits.drop whole

/-- Digits with the point after the first one, and a signed exponent. -/
def exponential (layout : FloatLayout) (d : DecimalDigits) : List Char :=
  let exponent := d.point - 1
  let mantissa :=
    match d.digits with
    | [c] => if layout.pointedDigit then [c, '.', '0'] else [c]
    | c :: rest => c :: '.' :: rest
    | [] => []
  mantissa ++ 'e' :: (if exponent < 0 then '-' else '+') ::
    Numeral.padded layout.exponentWidth exponent.natAbs

/-- The text of digits. -/
def renderDigits (layout : FloatLayout) (d : DecimalDigits) : List Char :=
  if layout.least ≤ d.point - 1 ∧ d.point - 1 ≤ layout.greatest then positional d
  else layout.exponential d

/-- The text of a double whose positive digits `digits` chooses. -/
def renderWith (layout : FloatLayout) (digits : Nat → DecimalDigits) : Binary64 → String
  | .nan => layout.nan
  | .infinity negative => if negative then layout.negativeInfinity else layout.infinity
  | .finite negative units =>
    if units == 0 then if negative && layout.signedZero then "-0.0" else "0.0"
    else
      let text := layout.renderDigits (digits units)
      String.ofList (if negative then '-' :: text else text)

/-- The text of a double with the fewest digits that read back. -/
def render (layout : FloatLayout) (x : Binary64) : String :=
  layout.renderWith Binary64.shortest x

/-- Numbers in displayed values: positional from `0.0001` to below `10 ^ 16`, exponents of at least
two digits. -/
def display : FloatLayout :=
  ⟨-4, 15, 2, false, true, "nan", "inf", "-inf"⟩

end FloatLayout

end CardHealth
