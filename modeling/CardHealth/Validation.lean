import CardHealth.Binary64.Reader
import CardHealth.Entries
import CardHealth.Numeral
import CardHealth.Text.Utf8
import CardHealth.Value

/-!
# Checking fields

How an untyped value becomes a field of a known type, and the faults that can be found.  A check
never changes a number: `Value.toInt` accepts a value only if it denotes an integer.
-/

namespace CardHealth

/-- What is wrong with a value. -/
inductive Fault where
  | missing
  /-- A record of the named kind was expected. -/
  | notARecord (record : String)
  | notAnInteger
  | unreadableInteger
  | oversizedInteger
  | fractionalInteger
  | notFinite
  | notANumber
  | unreadableNumber
  | notABoolean
  | unreadableBoolean
  | notText
  | undecodableText
  | notBytes
  /-- A text has more characters than this. -/
  | longText (greatest : Nat)
  deriving DecidableEq, Repr

namespace Fault

/-- The identifier of a kind of fault. -/
def code : Fault → String
  | .missing => "missing"
  | .notARecord _ => "model_type"
  | .notAnInteger => "int_type"
  | .unreadableInteger => "int_parsing"
  | .oversizedInteger => "int_parsing_size"
  | .fractionalInteger => "int_from_float"
  | .notFinite => "finite_number"
  | .notANumber => "float_type"
  | .unreadableNumber => "float_parsing"
  | .notABoolean => "bool_type"
  | .unreadableBoolean => "bool_parsing"
  | .notText => "string_type"
  | .undecodableText => "string_unicode"
  | .notBytes => "bytes_type"
  | .longText _ => "string_too_long"

/-- The message about a fault. -/
def message : Fault → String
  | .missing => "Field required"
  | .notARecord record => s!"Input should be a valid dictionary or instance of {record}"
  | .notAnInteger => "Input should be a valid integer"
  | .unreadableInteger => "Input should be a valid integer, unable to parse string as an integer"
  | .oversizedInteger => "Unable to parse input string as an integer, exceeded maximum size"
  | .fractionalInteger => "Input should be a valid integer, got a number with a fractional part"
  | .notFinite => "Input should be a finite number"
  | .notANumber => "Input should be a valid number"
  | .unreadableNumber => "Input should be a valid number, unable to parse string as a number"
  | .notABoolean => "Input should be a valid boolean"
  | .unreadableBoolean => "Input should be a valid boolean, unable to interpret input"
  | .notText => "Input should be a valid string"
  | .undecodableText =>
    "Input should be a valid string, unable to parse raw data as a unicode string"
  | .notBytes => "Input should be a valid bytes"
  | .longText greatest => s!"String should have at most {greatest} characters"

end Fault

/-- A fault and the field it was found in; no field means the record itself. -/
structure FieldFault where
  field : Option String
  fault : Fault
  deriving DecidableEq, Repr

/-- A record that was refused: its kind and its faults in the order of the fields. -/
structure Refusal where
  record : String
  faults : List FieldFault
  deriving DecidableEq, Repr

namespace Value

/-! ### Numbers -/

/-- Reads an integer field from a text. -/
def intOfText (s : List Char) : Except Fault Int :=
  match Numeral.readPlain s with
  | .ok n => .ok n
  | .error .malformed => .error .unreadableInteger
  | .error (.tooLong _) => .error .oversizedInteger

/-- The integer that a double is equal to, if it has less than 64 bits. -/
def intOfFloat (x : Binary64) : Except Fault Int :=
  if x.isFinite then
    match x.toInt? with
    | some n =>
      if -Numeral.wordLimit < n ∧ n < Numeral.wordLimit then .ok n else .error .oversizedInteger
    | none => .error .fractionalInteger
  else .error .notFinite

/-- The integer that a value denotes.  Of the byte strings only the fixed ones are read as text. -/
def toInt : Value → Except Fault Int
  | .bool b => .ok (if b then 1 else 0)
  | .int n => .ok n
  | .float x => intOfFloat x
  | .text s => intOfText s.toList
  | .bytes .fixed data =>
    match Text.decodeUtf8? data with
    | some s => intOfText s.toList
    | none => .error .unreadableInteger
  | _ => .error .notAnInteger

/-- Reads a field of doubles from a text. -/
def floatOfText (s : List Char) : Except Fault Binary64 :=
  match Binary64.read? s with
  | some x => .ok x
  | none => .error .unreadableNumber

/-- The double that a value denotes; an integer is rounded and may not round to infinity. -/
def toFloat : Value → Except Fault Binary64
  | .bool b => .ok (.ofInt (if b then 1 else 0))
  | .int n =>
    let x := Binary64.ofInt n
    if x.isFinite then .ok x else .error .notANumber
  | .float x => .ok x
  | .text s => floatOfText s.toList
  | .bytes .fixed data =>
    match Text.decodeUtf8? data with
    | some s => floatOfText s.toList
    | none => .error .unreadableNumber
  | _ => .error .notANumber

/-! ### Booleans -/

/-- The words for the truth values, in small letters. -/
def booleanWords : List (String × Bool) :=
  [("0", false), ("off", false), ("f", false), ("false", false), ("n", false), ("no", false),
   ("1", true), ("on", true), ("t", true), ("true", true), ("y", true), ("yes", true)]

/-- Reads a truth value from a text. -/
def boolOfText (s : String) : Except Fault Bool :=
  match booleanWords.lookup (Text.lowerAscii s) with
  | some b => .ok b
  | none => .error .unreadableBoolean

/-- The truth value of zero or one. -/
def boolOfInt (n : Int) : Except Fault Bool :=
  if n = 0 then .ok false else if n = 1 then .ok true else .error .unreadableBoolean

/-- The truth value that a value denotes. -/
def toBool : Value → Except Fault Bool
  | .bool b => .ok b
  | .int n => boolOfInt n
  | .float x =>
    match intOfFloat x with
    | .ok n => boolOfInt n
    | .error _ => .error .notABoolean
  | .text s => boolOfText s
  | .bytes .fixed data =>
    match Text.decodeUtf8? data with
    | some s => boolOfText s
    | none => .error .unreadableBoolean
  | _ => .error .notABoolean

/-! ### Texts and bytes -/

/-- The text that a value denotes; byte strings are read as UTF-8. -/
def toText : Value → Except Fault String
  | .text s => .ok s
  | .bytes .view _ => .error .notText
  | .bytes _ data =>
    match Text.decodeUtf8? data with
    | some s => .ok s
    | none => .error .undecodableText
  | _ => .error .notText

/-- The byte string that a value denotes; a text stands for its UTF-8 form. -/
def toBytes : Value → Except Fault Bytes
  | .text s => .ok (Text.encodeUtf8 s)
  | .bytes .view _ => .error .notBytes
  | .bytes _ data => .ok data
  | _ => .error .notBytes

end Value

/-! ### Records -/

/-- Checks the field under a key, which has to be there. -/
def requiredField {α : Type} (check : Value → Except Fault α) (key : String)
    (fields : List (String × Value)) : Except Fault α :=
  match lastNamed? key fields with
  | some value => check value
  | none => .error .missing

/-- The faults of a list of named field outcomes, in order. -/
def collectFaults (outcomes : List (String × Option Fault)) : List FieldFault :=
  outcomes.filterMap fun outcome => outcome.2.map fun fault => ⟨some outcome.1, fault⟩

/-- The fault of an outcome, if it is one. -/
def faultOf? {α : Type} : Except Fault α → Option Fault
  | .ok _ => none
  | .error fault => some fault

end CardHealth
