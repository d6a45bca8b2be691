import CardHealth.Binary64
import CardHealth.Text.Blank
import CardHealth.Text.DecimalDigit
import CardHealth.Text.AsciiCase
import CardHealth.Numeral

/-!
# Reading doubles

`Decimal.read?` reads a sign, digits with at most one point among or beside them, and an exponent;
`Decimal.toBinary64` rounds the number so written.  `Binary64.read?` is the form for record fields:
it also takes the words for infinity and nan, white space around, and underscores inside.
-/

namespace CardHealth

/-- The number `digits · 10 ^ exponent`, with a sign. -/
structure Decimal where
  negative : Bool
  digits : Nat
  exponent : Int
  deriving DecidableEq, Repr

namespace Decimal

/-- The exponent written after the letter `e`, or zero if nothing is left. -/
def readExponent? : List Char → Option Int
  | [] => some 0
  | c :: rest =>
    if c == 'e' || c == 'E' then
      let (negative, digits) := Numeral.takeSign rest
      if !digits.isEmpty && digits.all fun c => (Text.asciiDigit? c).isSome then
        some (Numeral.signed negative (Numeral.ofDigits (digits.filterMap Text.asciiDigit?)))
      else none
    else none

/-- Reads an unsigned decimal number: digits with at most one point, at least one of them, and
possibly an exponent. -/
def readUnsigned? (negative : Bool) (s : List Char) : Option Decimal := do
  let isDigit c := (Text.asciiDigit? c).isSome
  let whole := s.takeWhile isDigit
  let afterWhole := s.dropWhile isDigit
  let fractional :=
    match afterWhole with
    | '.' :: rest => rest.takeWhile isDigit
    | _ => []
  let afterFraction :=
    match afterWhole with
    | '.' :: rest => rest.dropWhile isDigit
    | _ => afterWhole
  let exponent ← readExponent? afterFraction
  if whole.isEmpty && fractional.isEmpty then none
  else
    let digits := (whole ++ fractional).filterMap Text.asciiDigit?
    some ⟨negative, Numeral.ofDigits digits, exponent - fractional.length⟩

/-- Reads a decimal number with an optional sign. -/
def read? (s : List Char) : Option Decimal :=
  let (negative, body) := Numeral.takeSign s
  readUnsigned? negative body

/-- The double nearest to a decimal number.  Beyond 400 places from the point on either side the
number is certain to be infinite or zero, and no power of ten is formed. -/
def toBinary64 (d : Decimal) : Binary64 :=
  if d.digits == 0 then .finite d.negative 0
  else
    let top := (Nat.toDigits 10 d.digits).length + d.exponent
    if top > 400 then .infinity d.negative
    else if top < -400 then .finite d.negative 0
    else if 0 ≤ d.exponent then .ofRatio d.negative (d.digits * Nat.pow 10 d.exponent.toNat) 1
    else .ofRatio d.negative d.digits (Nat.pow 10 (-d.exponent).toNat)

end Decimal

namespace Binary64

/-- Reads the words for infinity and nan, in any case and with an optional sign. -/
def readWord? (s : List Char) : Option Binary64 :=
  let (negative, body) := Numeral.takeSign s
  let word := body.map Text.lowerAsciiChar
  if word == "inf".toList || word == "infinity".toList then some (.infinity negative)
  else if word == "nan".toList then some .nan
  else none

/-- Reads a number or one of the words for infinity and nan. -/
def readBare? (s : List Char) : Option Binary64 :=
  match readWord? s with
  | some x => some x
  | none => (Decimal.read? s).map Decimal.toBinary64

/-- The text without its underscores, if it has some, none of them at an end and no two of them
side by side. -/
def withoutUnderscores? (s : List Char) : Option (List Char) :=
  let runs := s.splitOnP (· == '_')
  if runs.length > 1 && runs.all fun run => !run.isEmpty then some runs.flatten else none

/-- Reads a record field. -/
def read? (s : List Char) : Option Binary64 :=
  match readBare? (Text.trim s) with
  | some x => some x
  | none => (withoutUnderscores? (Text.trim s)).bind readBare?

end Binary64

end CardHealth
