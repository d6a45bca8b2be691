import CardHealth.Binary64.Reader
import CardHealth.Json
import CardHealth.Text.Percent

/-!
# Reading JSON

`Json.read?` accepts one JSON value with blanks around it.  A number with a point or an exponent
becomes the nearest double, any other number the integer it denotes.  An unpaired surrogate escape,
which denotes no character, reads as the replacement character.
-/

namespace CardHealth.Json

/-- The blanks between JSON tokens. -/
def isSpace (c : Char) : Bool :=
  c == ' ' || c == '\t' || c == '\n' || c == '\r'

/-- Drops the blanks before a token. -/
def skipSpace (s : List Char) : List Char :=
  s.dropWhile isSpace

/-! ### Numbers -/

/-- Whether a text is a run of decimal digits. -/
def isDigits (s : List Char) : Bool :=
  !s.isEmpty && s.all fun c => (Text.asciiDigit? c).isSome

/-- Whether digits may stand before the point: a lone zero, or no zero at the head. -/
def isWhole (s : List Char) : Bool :=
  isDigits s && (s.length == 1 || s.head? != some '0')

/-- Reads the characters of a number. -/
def readNumber? (token : List Char) : Option Json := do
  let (negative, body) :=
    match token with
    | '-' :: rest => (true, rest)
    | _ => (false, token)
  let isMark (c : Char) : Bool := c == '.' || c == 'e' || c == 'E'
  let whole := body.takeWhile fun c => !isMark c
  let rest := body.dropWhile fun c => !isMark c
  if !isWhole whole then none
  else
    match rest with
    | [] =>
      some (.int (Numeral.signed negative (Numeral.ofDigits (whole.filterMap Text.asciiDigit?))))
    | '.' :: fraction =>
      let digits := fraction.takeWhile fun c => !isMark c
      if isDigits digits then
        (Decimal.readUnsigned? negative body).map (.float ·.toBinary64)
      else none
    | _ => (Decimal.readUnsigned? negative body).map (.float ·.toBinary64)

/-! ### Strings -/

/-- The number that four hexadecimal digits denote. -/
def hexUnit? (a b c d : Char) : Option Nat := do
  let a ← Text.hexValue? a
  let b ← Text.hexValue? b
  let c ← Text.hexValue? c
  let d ← Text.hexValue? d
  return ((a * 16 + b) * 16 + c) * 16 + d

/-- The character that a letter after a backslash stands for. -/
def simpleEscape? (c : Char) : Option Char :=
  match c with
  | '"' => some '"'
  | '\\' => some '\\'
  | '/' => some '/'
  | 'b' => some '\x08'
  | 'f' => some '\x0c'
  | 'n' => some '\n'
  | 'r' => some '\r'
  | 't' => some '\t'
  | _ => none

/-- A surrogate of the first kind, which a second one has to follow. -/
def isHighSurrogate (unit : Nat) : Bool :=
  0xD800 ≤ unit && unit < 0xDC00

/-- A surrogate of the second kind. -/
def isLowSurrogate (unit : Nat) : Bool :=
  0xDC00 ≤ unit && unit < 0xE000

/-- The character for a code unit that stands alone. -/
def loneUnit (unit : Nat) : Char :=
  if isHighSurrogate unit || isLowSurrogate unit then '\uFFFD' else Char.ofNat unit

/-- The character and the rest after the escape of one code unit: a pair of surrogates makes one
character. -/
def pairUnit (unit : Nat) (rest : List Char) : Char × List Char :=
  match rest with
  | '\\' :: 'u' :: a :: b :: c :: d :: after =>
    match hexUnit? a b c d with
    | some second =>
      if isHighSurrogate unit && isLowSurrogate second then
        (Char.ofNat (0x10000 + (unit - 0xD800) * 0x400 + (second - 0xDC00)), after)
      else (loneUnit unit, rest)
    | none => (loneUnit unit, rest)
  | _ => (loneUnit unit, rest)

theorem length_pairUnit_le (unit : Nat) (rest : List Char) :
    (pairUnit unit rest).2.length ≤ rest.length := by
  unfold pairUnit
  split
  · split
    · split
      · simp only [List.length_cons]; omega
      · exact Nat.le_refl _
    · exact Nat.le_refl _
  · exact Nat.le_refl _

/-- Reads the rest of a string after its opening quote; `read` holds the characters before, the
last one first. -/
def readString? (read : List Char) : List Char → Option (String × List Char)
  | [] => none
  | '"' :: rest => some (String.ofList read.reverse, rest)
  | '\\' :: 'u' :: a :: b :: c :: d :: rest =>
    match hexUnit? a b c d with
    | some unit => readString? ((pairUnit unit rest).1 :: read) (pairUnit unit rest).2
    | none => none
  | '\\' :: c :: rest =>
    match simpleEscape? c with
    | some c => readString? (c :: read) rest
    | none => none
  | c :: rest => if c.toNat < 0x20 then none else readString? (c :: read) rest
termination_by s => s.length
decreasing_by
  · have := length_pairUnit_le unit rest
    simp only [List.length_cons]; omega
  · simp only [List.length_cons]; omega
  · simp only [List.length_cons]; omega

/-! ### Values -/

/-- Reads one of the words for a constant, or a number, from its characters. -/
def readWord? (token : List Char) : Option Json :=
  if token == "null".toList then some .null
  else if token == "true".toList then some (.bool true)
  else if token == "false".toList then some (.bool false)
  else readNumber? token

/-- A character of a number or a word. -/
def isTokenChar (c : Char) : Bool :=
  c.isAlphanum || c == '+' || c == '-' || c == '.'

mutual

/-- Reads a value that is nested at most `depth` deep, and gives what follows it. -/
def readValue? (depth : Nat) (s : List Char) : Option (Json × List Char) :=
  match depth with
  | 0 => none
  | depth + 1 =>
    match skipSpace s with
    | '"' :: rest => (readString? [] rest).map fun (s, rest) => (.string s, rest)
    | '[' :: rest =>
      match skipSpace rest with
      | ']' :: rest => some (.array [], rest)
      | rest => readItems? depth [] rest
    | '\x7b' :: rest =>
      match skipSpace rest with
      | '\x7d' :: rest => some (.object [], rest)
      | rest => readMembers? depth [] rest
    | token =>
      (readWord? (token.takeWhile isTokenChar)).map fun value =>
        (value, token.dropWhile isTokenChar)

/-- Reads the items of an array up to its closing bracket; `read` holds those before, the last one
first. -/
def readItems? (depth : Nat) (read : List Json) (s : List Char) : Option (Json × List Char) :=
  match depth with
  | 0 => none
  | depth + 1 =>
    match readValue? depth s with
    | none => none
    | some (item, rest) =>
      match skipSpace rest with
      | ',' :: rest => readItems? depth (item :: read) rest
      | ']' :: rest => some (.array (item :: read).reverse, rest)
      | _ => none

/-- Reads the members of an object up to its closing brace; `read` holds those before, the last one
first. -/
def readMembers? (depth : Nat) (read : List (String × Json)) (s : List Char) :
    Option (Json × List Char) :=
  match depth with
  | 0 => none
  | depth + 1 =>
    match skipSpace s with
    | '"' :: rest =>
      match readString? [] rest with
      | none => none
      | some (key, rest) =>
        match skipSpace rest with
        | ':' :: rest =>
          match readValue? depth rest with
          | none => none
          | some (value, rest) =>
            match skipSpace rest with
            | ',' :: rest => readMembers? depth ((key, value) :: read) rest
            | '\x7d' :: rest => some (.object ((key, value) :: read).reverse, rest)
            | _ => none
        | _ => none
    | _ => none

end

/-- Reads a JSON text.  Every step down uses up a character, so no value is nested deeper than the
text is long. -/
def read? (s : String) : Option Json :=
  match readValue? (s.length + 1) s.toList with
  | some (value, rest) => if (skipSpace rest).isEmpty then some value else none
  | none => none

end CardHealth.Json
