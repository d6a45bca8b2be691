import CardHealth.Entries
import CardHealth.Form.Error
import CardHealth.Text.Blank
import CardHealth.Text.AsciiCase
import CardHealth.Text.Percent
import CardHealth.Numeral

/-!
# Header values with parameters

Values such as `form-data; name="x"`: a head, then parameters divided by semicolons.  The head and
the names of parameters are read without regard to case; a value may stand between double quotes, in
which a backslash keeps the next quote or backslash.  A parameter may be split into numbered parts
`name*0`, `name*1`, …, and a part whose name ends in `*` is percent-encoded and carries a character
set and a language before its text.  All parts of a parameter have to be numbered, or none of them.
-/

namespace CardHealth.Form

/-- A header value: its head and its named parameters. -/
structure HeaderValue where
  head : String
  parameters : List (String × String)
  deriving DecidableEq, Repr

namespace HeaderValue

/-! ### Pieces between semicolons -/

/-- How many times a quote occurs that no backslash stands before. -/
def openQuotes (s : List Char) : Nat :=
  let escaped := (s.zip s.tail).countP fun pair => pair.1 == '\\' && pair.2 == '"'
  s.count '"' - escaped

/-- Joins a piece at whose end a quotation is still open with the piece after it. -/
def joinQuoted : List (List Char) → List (List Char)
  | [] => []
  | [piece] => [piece]
  | piece :: next :: rest =>
    if openQuotes piece % 2 == 1 then
      joinQuoted ((piece ++ ';' :: next) :: rest)
    else piece :: joinQuoted (next :: rest)
termination_by pieces => pieces.length

/-- The pieces of a value: semicolons between quotes do not divide it. -/
def pieces (s : List Char) : List (List Char) :=
  joinQuoted (s.splitOnP (· == ';'))

/-- A piece without the blanks around it. -/
def strip (s : List Char) : List Char :=
  Text.trimBy Text.isSpacing s

/-- The name and the value of a piece.  A name before `=` is put in small letters; a piece without
`=` is a bare name. -/
def nameAndValue (piece : List Char) : List Char × List Char :=
  match piece.dropWhile (· != '=') with
  | _ :: value =>
    ((strip (piece.takeWhile (· != '='))).map Text.lowerAsciiChar, strip value)
  | [] => (strip piece, [])

/-! ### Quotation marks -/

/-- Replaces each pair `\\` or `\"` that begins with a backslash and ends with `c` by `c`. -/
def dropBackslashes (c : Char) : List Char → List Char
  | '\\' :: d :: rest =>
    if d == c then c :: dropBackslashes c rest else '\\' :: dropBackslashes c (d :: rest)
  | d :: rest => d :: dropBackslashes c rest
  | [] => []

/-- Whether a text begins with one character and ends with another, at two different places. -/
def isEnclosed (first last : Char) (s : List Char) : Bool :=
  s.length > 1 && s.head? == some first && s.getLast? == some last

/-- A value without its quotation marks or angle brackets. -/
def unquote (s : List Char) : List Char :=
  if isEnclosed '"' '"' s then dropBackslashes '"' (dropBackslashes '\\' (s.drop 1).dropLast)
  else if isEnclosed '<' '>' s then (s.drop 1).dropLast
  else s

/-! ### Numbered and encoded parts -/

/-- One part of a parameter: its number if it has one, its text, and whether it is encoded. -/
structure Part where
  number : Option Nat
  text : List Char
  isEncoded : Bool

/-- Whether a character may stand in the name of a parameter that comes in parts. -/
def isNameChar (c : Char) : Bool :=
  c.isAlphanum || c == '_'

/-- The name and the number of a part, if a name has the form of one: `x*`, `x*1` or `x*1*`. -/
def partName? (name : List Char) : Option (List Char × Option Nat) :=
  let base := name.takeWhile isNameChar
  let digits (s : List Char) : Option (Option Nat) :=
    if s.isEmpty then some none
    else if s.all fun c => (Text.asciiDigit? c).isSome then
      some (some (Numeral.ofDigits (s.filterMap Text.asciiDigit?)))
    else none
  if base.isEmpty then none
  else
    match name.dropWhile isNameChar with
    | '*' :: rest =>
      if rest.isEmpty then some (base, none)
      else
        match digits (if rest.getLast? == some '*' then rest.dropLast else rest) with
        | some (some n) => some (base, some n)
        | _ => none
    | _ => none

/-- The text of a part, decoded one byte a character if it is encoded. -/
def Part.decoded (part : Part) : List Char :=
  if part.isEncoded then
    (part.text.splitBy fun a b => Text.isAscii a == Text.isAscii b).flatMap fun run =>
      if run.all Text.isAscii then Bytes.toLatin1 (Text.percentBytes run) else run
  else part.text

/-- Whether a part may stand before another: by number, then by text. -/
def Part.le (a b : Part) : Bool :=
  let m := a.number.getD 0
  let n := b.number.getD 0
  m < n || (m == n && decide (String.ofList a.text ≤ String.ofList b.text))

/-- What follows the second apostrophe of a text, if it has two. -/
def afterLanguage (s : List Char) : List Char :=
  match (s.dropWhile (· != '\'')).drop 1 |>.dropWhile (· != '\'') with
  | _ :: text => text
  | [] => s

/-- Whether some parts have numbers and others do not. -/
def areMixed (parts : List Part) : Bool :=
  parts.any (·.number.isSome) && parts.any (·.number.isNone)

/-- The value of a parameter made of parts. -/
def joinParts (parts : List Part) : Except Error (List Char) :=
  if areMixed parts then .error (.mixedParts (parts.head?.any (·.number.isSome)))
  else
    let text := (parts.mergeSort Part.le).flatMap Part.decoded
    .ok (if parts.any (·.isEncoded) then afterLanguage text else text)

/-- The parameters among named values: those of one piece in their order, then those that come in
parts, in the order of their first parts. -/
def resolveParts (named : List (List Char × List Char)) :
    Except Error (List (String × String)) := do
  let single := named.filter fun (name, _) => (partName? name).isNone
  let parts := named.filterMap fun (name, value) =>
    (partName? name).map fun (base, number) =>
      (base, Part.mk number value (name.getLast? == some '*'))
  let bases := (parts.map (·.1)).eraseDups
  let joined ← bases.mapM fun base => do
    let value ← joinParts ((parts.filter fun part => part.1 == base).map (·.2))
    return (String.ofList base, String.ofList value)
  return single.map (fun (name, value) => (String.ofList name, String.ofList value)) ++ joined

/-! ### Reading -/

/-- Reads a header value, with its head in small letters.  Without a semicolon there are no
parameters. -/
def read (s : String) : Except Error HeaderValue :=
  let s := s.toList
  if s.contains ';' then
    match pieces s with
    | head :: rest =>
      let named := rest.map fun piece =>
        let (name, value) := nameAndValue piece
        (name, unquote value)
      let kind := Text.lowerAscii (String.ofList (nameAndValue head).1)
      (resolveParts named).map (HeaderValue.mk kind)
    | [] => .ok ⟨"", []⟩
  else .ok ⟨Text.lowerAscii (String.ofList (strip s)), []⟩

/-- The value of a parameter; of several with one name, the last counts. -/
def parameter? (h : HeaderValue) (name : String) : Option String :=
  lastNamed? name h.parameters

end HeaderValue

end CardHealth.Form
