import CardHealth.Text.Blank
import CardHealth.Text.DecimalDigit

/-!
# Numerals

Two ways to write a whole number.

* `Numeral.read` is the form for parameters: white space around it, an optional sign, decimal
  digits of any script, and single underscores strictly between digits.
* `Numeral.readPlain` is the form for record fields: ASCII digits, and a fractional part of zeros
  after them.  Such a text is cleaned first, and has to be the plain decimal text of an integer
  then.  Cleaning is generous with zeros in front, which may have any underscores between them and
  even a minus sign after them.

Both refuse more than `Numeral.maxDigits` digits; the second one counts from the first digit that is
not zero, and a minus sign counts as a digit.
-/

namespace CardHealth.Numeral

/-- The greatest number of digits that a numeral may have. -/
def maxDigits : Nat := 4300

/-- One more than the greatest integer that 64 bits with a sign hold. -/
def wordLimit : Int := 0x8000000000000000

/-- Why a text is not read as a number. -/
inductive Error where
  /-- The text is no numeral. -/
  | malformed
  /-- The numeral has this many digits, more than allowed. -/
  | tooLong (digits : Nat)
  deriving DecidableEq, Repr

/-- The message about a numeral with too many digits. -/
def oversizedMessage (digits : Nat) : String :=
  s!"Exceeds the limit ({maxDigits} digits) for integer string conversion: " ++
    s!"value has {digits} digits; use sys.set_int_max_str_digits() to increase the limit"

/-- The number that a sequence of digits denotes, the most significant digit first. -/
def ofDigits (digits : List Nat) : Nat :=
  digits.foldl (fun n d => 10 * n + d) 0

/-- The digits of a text that consists of runs of digits divided by single underscores; `digit?`
says which characters are digits. -/
def digits? (digit? : Char → Option Nat) (s : List Char) : Option (List Nat) :=
  let runs := s.splitOnP (· == '_')
  if runs.all fun run => !run.isEmpty && run.all fun c => (digit? c).isSome then
    some (s.filterMap digit?)
  else none

/-- Takes an optional sign off a text and says whether it was a minus. -/
def takeSign : List Char → Bool × List Char
  | '-' :: rest => (true, rest)
  | '+' :: rest => (false, rest)
  | s => (false, s)

/-- The integer with the given sign and magnitude. -/
def signed (negative : Bool) (n : Nat) : Int :=
  if negative then -(n : Int) else n

/-- Reads a parameter. -/
def read (s : List Char) : Except Error Int :=
  let (negative, body) := takeSign (Text.trim s)
  match digits? Text.decimalDigit? body with
  | none => .error .malformed
  | some digits =>
    if digits.length > maxDigits then .error (.tooLong digits.length)
    else .ok (signed negative (ofDigits digits))

/-! ### Record fields -/

/-- Whether a character is skipped among the zeros in front of a number. -/
def isLeadingZero (c : Char) : Bool :=
  c == '0' || c == '_'

/-- What is left of a text after the zeros in front.  These have to be followed by another digit, a
minus sign, a decimal point or the end; before a point and at the end, the last of the characters
that were skipped is kept. -/
def afterZeros? (zeros rest : List Char) : Option (List Char) :=
  match rest with
  | [] | '.' :: _ => some (zeros.getLast?.toList ++ rest)
  | c :: _ => if c.isDigit || c == '-' then some rest else none

/-- A text that begins with a digit, without the zeros in front and the underscores among them. -/
def dropLeadingZeros? (s : List Char) : Option (List Char) :=
  match s with
  | '0' :: _ => afterZeros? (s.takeWhile isLeadingZero) (s.dropWhile isLeadingZero)
  | c :: _ => if c.isDigit then some s else none
  | [] => none

/-- Drops a decimal point followed by zeros, at least one. -/
def dropZeroFraction (s : List Char) : List Char :=
  match s.dropWhile (· != '.') with
  | '.' :: '0' :: zeros => if zeros.all (· == '0') then s.takeWhile (· != '.') else s
  | _ => s

/-- Removes the underscores if all of them are single and stand between other characters. -/
def removeUnderscores (s : List Char) : List Char :=
  if (s.splitOnP (· == '_')).any List.isEmpty then s else s.filter (· != '_')

/-- A text that begins with a digit, without the zeros in front, a fraction of zeros, and
underscores. -/
def cleanBody? (s : List Char) : Option (List Char) :=
  (dropLeadingZeros? s).map fun rest => removeUnderscores (dropZeroFraction rest)

/-- The minus sign of a negative number. -/
def minusSign (negative : Bool) : List Char :=
  if negative then ['-'] else []

/-- A text without its plus sign, and with its minus sign before what is left of its body. -/
def clean? (s : List Char) : Option (List Char) :=
  let (negative, body) := takeSign s
  (cleanBody? body).map (minusSign negative ++ ·)

/-- Takes a minus sign off a text and says whether there was one. -/
def takeMinus : List Char → Bool × List Char
  | '-' :: rest => (true, rest)
  | s => (false, s)

/-- Reads the plain decimal text of an integer, which has no zeros in front.  Too many digits are
told before anything that follows them. -/
def readDecimal (s : List Char) : Except Error Int :=
  let (negative, body) := takeMinus s
  let digits := body.takeWhile Char.isDigit
  let length := (minusSign negative).length + digits.length
  if body == ['0'] then .ok 0
  else if digits.isEmpty || digits.head? == some '0' then .error .malformed
  else if length > maxDigits then .error (.tooLong length)
  else if body != digits then .error .malformed
  else .ok (signed negative (ofDigits (digits.filterMap Text.asciiDigit?)))

/-- Reads a record field. -/
def readPlain (s : List Char) : Except Error Int :=
  match clean? (Text.trim s) with
  | some cleaned => readDecimal cleaned
  | none => .error .malformed

/-! ### Writing -/

/-- The decimal text of an integer. -/
def render (n : Int) : String :=
  if n < 0 then "-" ++ Nat.repr n.natAbs else Nat.repr n.natAbs

/-- The decimal digits of a number, with zeros before them up to a width. -/
def padded (width n : Nat) : List Char :=
  let digits := Nat.toDigits 10 n
  List.replicate (width - digits.length) '0' ++ digits

end CardHealth.Numeral
