import CardHealth.Binary64.Fixed
import CardHealth.Entries
import CardHealth.Value.Display

/-!
# Message templates

A template holds directives such as `%s`, `%-5d` or `%(name)s`, which stand for arguments:
`%`, then a name in parentheses, flags, a width, a precision and the letter of a conversion, all but
the last optional.  `Template.render` replaces the directives in order; it fails where an argument
is missing, left over, or not of the kind that its conversion needs.
-/

namespace CardHealth.Text.Template

/-- Why a template cannot be filled in. -/
inductive Error where
  | notEnoughArguments
  | leftoverArguments
  | incomplete
  | incompleteKey
  | needsMapping
  | missingKey (key : String)
  | starNeedsInteger
  | oversizedWidth
  | oversizedPrecision
  /-- An argument for a width has no 64-bit representation. -/
  | oversizedWidthArgument
  /-- An argument for a precision has no 32-bit representation. -/
  | oversizedPrecisionArgument
  | unsupported (conversion : Char) (position : Nat)
  | notANumber (conversion : Char) (kind : String)
  | notAnInteger (conversion : Char) (kind : String)
  | notAReal (kind : String)
  | notAChar
  | charOutOfRange
  | nanInteger
  | infiniteInteger
  | oversizedReal
  deriving DecidableEq, Repr

/-- The message about a template that cannot be filled in. -/
def Error.message : Error → String
  | .notEnoughArguments => "not enough arguments for format string"
  | .leftoverArguments => "not all arguments converted during string formatting"
  | .incomplete => "incomplete format"
  | .incompleteKey => "incomplete format key"
  | .needsMapping => "format requires a mapping"
  | .missingKey key => quoted key
  | .starNeedsInteger => "* wants int"
  | .oversizedWidth => "width too big"
  | .oversizedPrecision => "precision too big"
  | .oversizedWidthArgument => "Python int too large to convert to C ssize_t"
  | .oversizedPrecisionArgument => "Python int too large to convert to C int"
  | .unsupported c position =>
    let shown := if 31 ≤ c.toNat ∧ c.toNat ≤ 126 then c else '?'
    let code := String.ofList (Nat.toDigits 16 c.toNat)
    s!"unsupported format character '{shown}' (0x{code}) at index {position}"
  | .notANumber c kind => s!"%{c} format: a real number is required, not {kind}"
  | .notAnInteger c kind => s!"%{c} format: an integer is required, not {kind}"
  | .notAReal kind => s!"must be real number, not {kind}"
  | .notAChar => "%c requires int or char"
  | .charOutOfRange => "%c arg not in range(0x110000)"
  | .nanInteger => "cannot convert float NaN to integer"
  | .infiniteInteger => "cannot convert float infinity to integer"
  | .oversizedReal => "int too large to convert to float"

/-- A directive apart from its argument. -/
structure Directive where
  leftAligned : Bool := false
  plus : Bool := false
  blank : Bool := false
  alternate : Bool := false
  zeros : Bool := false
  width : Nat := 0
  precision : Option Nat := none

/-! ### Layout -/

/-- A text in a field of the directive's width. -/
def Directive.pad (d : Directive) (s : List Char) : List Char :=
  let blanks := List.replicate (d.width - s.length) ' '
  if d.leftAligned then s ++ blanks else blanks ++ s

/-- A number, given by its sign, a mark of its base and its digits, in a field of the directive's
width. -/
def Directive.padNumber (d : Directive) (negative : Bool) (mark digits : List Char) : List Char :=
  let sign := if negative then ['-'] else if d.plus then ['+'] else if d.blank then [' '] else []
  let missing := d.width - (sign.length + mark.length + digits.length)
  if d.zeros && !d.leftAligned then sign ++ mark ++ List.replicate missing '0' ++ digits
  else d.pad (sign ++ mark ++ digits)

/-! ### Conversions -/

/-- A text argument, cut to the precision. -/
def Directive.text (d : Directive) (s : String) : List Char :=
  d.pad (match d.precision with
    | some n => s.toList.take n
    | none => s.toList)

/-- A text with escapes for all characters outside ASCII. -/
def asciiOnly (s : String) : String :=
  String.ofList <| s.toList.flatMap fun c =>
    let n := c.toNat
    if n < 0x80 then [c]
    else if n < 0x100 then '\\' :: 'x' :: hexDigits 2 n
    else if n < 0x10000 then '\\' :: 'u' :: hexDigits 4 n
    else '\\' :: 'U' :: hexDigits 8 n

/-- The base of a conversion of integers, and its mark. -/
def baseOf (conversion : Char) : Nat × List Char :=
  match conversion with
  | 'o' => (8, ['0', 'o'])
  | 'x' => (16, ['0', 'x'])
  | 'X' => (16, ['0', 'X'])
  | _ => (10, [])

/-- An integer argument. -/
def Directive.int (d : Directive) (conversion : Char) (n : Int) : List Char :=
  let (base, mark) := baseOf conversion
  let digits := Nat.toDigits base n.natAbs
  let digits := List.replicate (d.precision.getD 1 - digits.length) '0' ++ digits
  let digits := if conversion == 'X' then digits.map Char.toUpper else digits
  d.padNumber (n < 0) (if d.alternate then mark else []) digits

/-- The integer that a decimal conversion shows. -/
def truncated (conversion : Char) : Value → Except Error Int
  | .int n => .ok n
  | .bool b => .ok (if b then 1 else 0)
  | .float .nan => .error .nanInteger
  | .float (.infinity _) => .error .infiniteInteger
  | .float (.finite negative units) =>
    .ok (Binary64.signedUnits negative (units / Binary64.one))
  | value => .error (.notANumber conversion value.kindName)

/-- The integer that a conversion to another base shows. -/
def whole (conversion : Char) : Value → Except Error Int
  | .int n => .ok n
  | .bool b => .ok (if b then 1 else 0)
  | value => .error (.notAnInteger conversion value.kindName)

/-- The double that a conversion shows. -/
def real : Value → Except Error Binary64
  | .float x => .ok x
  | .bool b => .ok (.ofInt (if b then 1 else 0))
  | .int n =>
    let x := Binary64.ofInt n
    if x.isFinite then .ok x else .error .oversizedReal
  | value => .error (.notAReal value.kindName)

/-- A double argument. -/
def Directive.float (d : Directive) (conversion : Char) (x : Binary64) : List Char :=
  let precision := d.precision.getD 6
  let (negative, digits) :=
    match x with
    | .nan => (false, "nan".toList)
    | .infinity negative => (negative, "inf".toList)
    | .finite negative units =>
      (negative,
        match conversion.toLower with
        | 'e' => Binary64.exponential d.alternate precision units
        | 'f' => Binary64.fixed d.alternate precision units
        | _ => Binary64.general d.alternate precision units)
  d.padNumber negative [] (if conversion.isUpper then digits.map Char.toUpper else digits)

/-- A character argument. -/
def Directive.char (d : Directive) : Value → Except Error (List Char)
  | .int n =>
    if 0 ≤ n ∧ n < 0x110000 then .ok (d.pad [Char.ofNat n.toNat]) else .error .charOutOfRange
  | .bool b => .ok (d.pad [if b then '\x01' else '\x00'])
  | .text s =>
    match s.toList with
    | [c] => .ok (d.pad [c])
    | _ => .error .notAChar
  | _ => .error .notAChar

/-- An argument as a conversion shows it; `position` is the place of its letter. -/
def Directive.convert (d : Directive) (conversion : Char) (position : Nat) (value : Value) :
    Except Error (List Char) :=
  match conversion with
  | 's' => .ok (d.text value.plain)
  | 'r' => .ok (d.text value.display)
  | 'a' => .ok (d.text (asciiOnly value.display))
  | 'c' => d.char value
  | 'd' | 'i' | 'u' => (truncated conversion value).map (d.int conversion)
  | 'o' | 'x' | 'X' => (whole conversion value).map (d.int conversion)
  | 'e' | 'E' | 'f' | 'F' | 'g' | 'G' => (real value).map (d.float conversion)
  | c => .error (.unsupported c position)

/-! ### Arguments -/

/-- What directives stand for: values in order, or one mapping. -/
inductive Arguments where
  | values (values : List Value)
  | mapping (fields : List (String × Value))

/-- The arguments that a list of values gives: a lone object that is not empty is a mapping. -/
def Arguments.ofValues : List Value → Arguments
  | [.object (field :: fields)] => .mapping (field :: fields)
  | list => .values list

/-- Takes the next of the values that are left. -/
def takeNext : List Value → Except Error (Value × List Value)
  | value :: rest => .ok (value, rest)
  | [] => .error .notEnoughArguments

/-! ### Directives -/

/-- Reads flags. -/
def readFlags (d : Directive) : List Char → Directive × List Char
  | '-' :: rest => readFlags { d with leftAligned := true } rest
  | '+' :: rest => readFlags { d with plus := true } rest
  | ' ' :: rest => readFlags { d with blank := true } rest
  | '#' :: rest => readFlags { d with alternate := true } rest
  | '0' :: rest => readFlags { d with zeros := true } rest
  | s => (d, s)

/-- A count that is read: its greatest value, and what is wrong with a greater one in the template
and among the arguments. -/
structure CountKind where
  greatest : Nat
  written : Error
  argument : Error

/-- Widths, which have 64 bits with the sign. -/
def widthKind : CountKind :=
  ⟨0x7FFFFFFFFFFFFFFF, .oversizedWidth, .oversizedWidthArgument⟩

/-- Precisions, which have 32 bits with the sign. -/
def precisionKind : CountKind :=
  ⟨0x7FFFFFFF, .oversizedPrecision, .oversizedPrecisionArgument⟩

/-- An argument as a count. -/
def CountKind.ofArgument (kind : CountKind) (value : Value) : Except Error Int :=
  match value with
  | .int n =>
    if -kind.greatest - 1 ≤ n ∧ n ≤ kind.greatest then .ok n else .error kind.argument
  | .bool b => .ok (if b then 1 else 0)
  | _ => .error .starNeedsInteger

/-- Reads a count, or a star, for which an argument stands. -/
def readCount (kind : CountKind) (pending : List Value) (s : List Char) :
    Except Error (Int × List Value × List Char) :=
  match s with
  | '*' :: rest => do
    let (value, pending) ← takeNext pending
    let n ← kind.ofArgument value
    return (n, pending, rest)
  | _ =>
    let isDigit c := (asciiDigit? c).isSome
    let n := Numeral.ofDigits ((s.takeWhile isDigit).filterMap asciiDigit?)
    if n ≤ kind.greatest then .ok (n, pending, s.dropWhile isDigit) else .error kind.written

/-- Reads a precision after its point. -/
def readPrecision (pending : List Value) (s : List Char) :
    Except Error (Option Nat × List Value × List Char) :=
  match s with
  | '.' :: rest => do
    let (n, pending, rest) ← readCount precisionKind pending rest
    return (some n.toNat, pending, rest)
  | _ => .ok (none, pending, s)

/-- Splits a text at the parenthesis that closes one opened before it. -/
def splitKey? (depth : Nat) (read : List Char) : List Char → Option (List Char × List Char)
  | [] => none
  | ')' :: rest =>
    match depth with
    | 0 => some (read.reverse, rest)
    | depth + 1 => splitKey? depth (')' :: read) rest
  | '(' :: rest => splitKey? (depth + 1) ('(' :: read) rest
  | c :: rest => splitKey? depth (c :: read) rest

/-- Drops the letter of a size, which says nothing about an argument. -/
def skipSize : List Char → List Char
  | c :: rest => if c == 'h' || c == 'l' || c == 'L' then rest else c :: rest
  | [] => []

/-- Fills in a directive after its percent sign, and its key if it has one.  `length` is the length
of the whole template. -/
def fillDirective (length : Nat) (pending : List Value) (s : List Char) :
    Except Error (List Char × List Value × List Char) := do
  let (d, s) := readFlags {} s
  let (width, pending, s) ← readCount widthKind pending s
  let d := { d with leftAligned := d.leftAligned || width < 0, width := width.natAbs }
  let (precision, pending, s) ← readPrecision pending s
  match skipSize s with
  | [] => .error .incomplete
  | c :: rest =>
    let (value, pending) ← takeNext pending
    let text ← { d with precision }.convert c (length - rest.length - 1) value
    .ok (text, pending, rest)

/-- Fills in a directive after its percent sign: one with a key takes the value under it, and a
second percent sign stands for one. -/
def fillKeyed (length : Nat) (arguments : Arguments) (pending : List Value) (s : List Char) :
    Except Error (List Char × List Value × List Char) :=
  match s with
  | '%' :: rest => .ok (['%'], pending, rest)
  | '(' :: rest =>
    match arguments with
    | .values _ => .error .needsMapping
    | .mapping fields =>
      match splitKey? 0 [] rest with
      | none => .error .incompleteKey
      | some (key, rest) =>
        match lastNamed? (String.ofList key) fields with
        | none => .error (.missingKey (String.ofList key))
        | some value => fillDirective length [value] rest
  | _ => fillDirective length pending s

/-- Fills in a template onto the text before, the last character first.  Every directive uses up
a character. -/
def fill (length : Nat) (arguments : Arguments) (pending : List Value) (read : List Char)
    (s : List Char) : Except Error (List Char) :=
  match s with
  | [] =>
    match arguments, pending with
    | .values _, _ :: _ => .error .leftoverArguments
    | _, _ => .ok read.reverse
  | c :: rest =>
    if c == '%' then
      match fillKeyed length arguments pending rest with
      | .error e => .error e
      | .ok (text, pending, after) =>
        if after.length ≤ rest.length then
          fill length arguments pending (text.reverse ++ read) after
        else .ok read.reverse
    else fill length arguments pending (c :: read) rest
termination_by s.length

/-- A template with its directives replaced by arguments; without arguments it is kept as it is. -/
def render (template : String) (values : List Value) : Except Error String :=
  if values.isEmpty then .ok template
  else
    let s := template.toList
    (fill s.length (Arguments.ofValues values) values [] s).map String.ofList

end CardHealth.Text.Template
