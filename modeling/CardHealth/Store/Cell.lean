import CardHealth.Binary64.Layout
import CardHealth.Binary64.Reader
import CardHealth.Value

/-!
# Stored values

A stored value has one of five kinds, whatever its column was declared to hold.  Declared types only
lend a column an *affinity*, which converts a value on its way in where that loses nothing.  Values
of different kinds are ordered by kind: null, numbers, texts, byte strings.
-/

namespace CardHealth.Store

/-- A stored value. -/
inductive Cell where
  | null
  | int (n : Int)
  | real (x : Binary64)
  | text (s : String)
  | blob (b : Bytes)
  deriving DecidableEq, Repr, Inhabited

/-! ### Integers of 64 bits -/

/-- Whether an integer has a signed 64-bit representation. -/
def fitsWord (n : Int) : Bool :=
  -Numeral.wordLimit ≤ n && n < Numeral.wordLimit

/-- A double as a stored number: an integer if it is one strictly between the ends of the 64-bit
range. -/
def ofDouble (x : Binary64) : Cell :=
  match x.toInt? with
  | some n => if -Numeral.wordLimit < n ∧ n < Numeral.wordLimit - 1 then .int n else .real x
  | none => .real x

/-! ### Numeric texts -/

/-- The blanks that may stand around a numeric text. -/
def isSpace (c : Char) : Bool :=
  c == ' ' || (0x09 ≤ c.toNat && c.toNat ≤ 0x0D)

/-- The longest numeric beginning of a text: its number, whether it is written without point and
exponent, and what follows it. -/
structure NumericHead where
  number : Decimal
  /-- Whether there is at least one digit before the exponent. -/
  hasDigits : Bool
  whole : Bool
  rest : List Char

/-- The exponent at the head of a text, if it is complete, and what follows it. -/
def takeExponent (s : List Char) : Option Int × List Char :=
  match s with
  | c :: rest =>
    if c == 'e' || c == 'E' then
      let (negative, body) := Numeral.takeSign rest
      let isDigit c := (Text.asciiDigit? c).isSome
      let digits := (body.takeWhile isDigit).filterMap Text.asciiDigit?
      if digits.isEmpty then (none, s)
      else (some (Numeral.signed negative (Numeral.ofDigits digits)), body.dropWhile isDigit)
    else (none, s)
  | [] => (none, [])

/-- Takes the numeric beginning off a text. -/
def takeNumeric (s : List Char) : NumericHead :=
  let (negative, body) := Numeral.takeSign (s.dropWhile isSpace)
  let isDigit c := (Text.asciiDigit? c).isSome
  let whole := body.takeWhile isDigit
  let afterWhole := body.dropWhile isDigit
  let (pointed, fraction, afterFraction) :=
    match afterWhole with
    | '.' :: rest => (true, rest.takeWhile isDigit, rest.dropWhile isDigit)
    | _ => (false, [], afterWhole)
  let digits := (whole ++ fraction).filterMap Text.asciiDigit?
  let (exponent, rest) := takeExponent afterFraction
  { number := ⟨negative, Numeral.ofDigits digits, exponent.getD 0 - fraction.length⟩
    hasDigits := !digits.isEmpty
    whole := !pointed && exponent.isNone
    rest := rest }

/-- The number at the beginning of a text: an integer if it is written as one of 64 bits. -/
def NumericHead.toCell (head : NumericHead) : Cell :=
  let n := Numeral.signed head.number.negative head.number.digits
  if head.whole && fitsWord n then .int n else .real head.number.toBinary64

/-- The number that a whole text denotes, with blanks around it allowed. -/
def numericText? (s : String) : Option Cell :=
  let head := takeNumeric s.toList
  if head.hasDigits && head.rest.all isSpace then some head.toCell else none

/-- The number that a text counts as in a sum: its numeric beginning, or zero. -/
def numericValue (s : List Char) : Cell :=
  let head := takeNumeric s
  if head.hasDigits then head.toCell else .int 0

/-! ### Affinities -/

/-- What a column makes of the values put into it. -/
inductive Affinity where
  /-- Integers where possible, else any number. -/
  | numeric
  /-- Doubles. -/
  | real
  /-- Texts. -/
  | text
  /-- Anything, unchanged. -/
  | none
  deriving DecidableEq, Repr

/-- Numbers as texts: fifteen digits, positional below `10 ^ 15`. -/
def textLayout : FloatLayout :=
  ⟨-4, 14, 2, true, false, "NaN", "Inf", "-Inf"⟩

/-- A value as a number, where it denotes one. -/
def toNumeric : Cell → Cell
  | .real x => ofDouble x
  | .text s =>
    match numericText? s with
    | some (.real x) => ofDouble x
    | some cell => cell
    | none => .text s
  | cell => cell

/-- The value that a column of some affinity keeps. -/
def Affinity.apply : Affinity → Cell → Cell
  | .none, cell => cell
  | .numeric, cell => toNumeric cell
  | .real, cell =>
    match toNumeric cell with
    | .int n => .real (.ofInt n)
    | cell => cell
  | .text, .int n => .text (Numeral.render n)
  | .text, .real x => .text (textLayout.renderWith (Binary64.significant 15) x)
  | .text, cell => cell

/-! ### Order -/

/-- The order of stored values, with numbers compared exactly, texts by code point and byte strings
byte by byte. -/
def Cell.order : Cell → Cell → Ordering
  | .null, .null => .eq
  | .null, _ => .lt
  | _, .null => .gt
  | .int a, .int b => compare a b
  | .int a, .real b => (b.compareInt a).swap
  | .real a, .int b => a.compareInt b
  | .real a, .real b => a.compare b
  | .int _, _ => .lt
  | .real _, _ => .lt
  | _, .int _ => .gt
  | _, .real _ => .gt
  | .text a, .text b => compare a b
  | .text _, .blob _ => .lt
  | .blob _, .text _ => .gt
  | .blob a, .blob b => if a < b then .lt else if a = b then .eq else .gt

/-- Whether two values are equal in a condition; null is equal to nothing. -/
def Cell.equals (a b : Cell) : Bool :=
  a != .null && a.order b == .eq

/-- Whether a value is at least another in a condition; null is not. -/
def Cell.atLeast (a b : Cell) : Bool :=
  a != .null && b != .null && (a.order b).isGE

/-! ### Sums -/

/-- What a value counts as in a sum. -/
def Cell.summand : Cell → Cell
  | .text s => numericValue s.toList
  | .blob b => numericValue (Bytes.toLatin1 b)
  | cell => cell

/-- A number as a double. -/
def Cell.toDouble : Cell → Binary64
  | .int n => .ofInt n
  | .real x => x
  | _ => .zero

/-- The double that a sum came to; nan is not a value. -/
def realSum (x : Binary64) : Cell :=
  if x = .nan then .null else .real x

/-- The sum of two values: exact in 64 bits, a double beyond them or where a summand is one, null
where a summand is null. -/
def Cell.add (a b : Cell) : Cell :=
  match a.summand, b.summand with
  | .null, _ | _, .null => .null
  | .int m, .int n =>
    if fitsWord (m + n) then .int (m + n) else realSum (.add (.ofInt m) (.ofInt n))
  | a, b => realSum (.add a.toDouble b.toDouble)

/-- A stored value as it is handed out. -/
def Cell.toValue : Cell → Value
  | .null => .null
  | .int n => .int n
  | .real x => .float x
  | .text s => .text s
  | .blob b => .bytes .fixed b

end CardHealth.Store
