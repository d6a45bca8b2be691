import CardHealth.Store.Error
import CardHealth.Store.Schema

/-!
# Statement parameters

How an untyped value becomes a stored one.  `bind` is the last step of every statement; a statement
made from a record first prepares each value for the type of its column.
-/

namespace CardHealth.Store

/-- The stored form of the parameter at a position; nan is stored as null. -/
def bind (position : Nat) : Value → Except Error Cell
  | .null => .ok .null
  | .bool b => .ok (.int (if b then 1 else 0))
  | .int n => if fitsWord n then .ok (.int n) else .error .oversizedInteger
  | .float x => .ok (if x = .nan then .null else .real x)
  | .text s => .ok (.text s)
  | .bytes _ data => .ok (.blob data)
  | value => .error (.unsupportedKind position value.kindName)

/-- The text of a number with each decimal digit in ASCII and without underscores, if every
underscore stands between two digits. -/
def plainNumber? (s : List Char) : Option (List Char) :=
  let s := s.map fun c =>
    match Text.decimalDigit? c with
    | some d => Text.hexDigit d
    | none => c
  let isDigit (c : Option Char) : Bool := (c.bind Text.asciiDigit?).isSome
  let runs := s.splitOnP (· == '_')
  if (runs.dropLast.all fun run => isDigit run.getLast?) &&
      (runs.tail.all fun run => isDigit run.head?) then
    some runs.flatten
  else none

/-- Reads a number for a column of doubles; `shown` is the text in the message if it is none. -/
def numberParameter (shown : String) (s : List Char) : Except Error Value :=
  match (plainNumber? (Text.trim s)).bind Binary64.readBare? with
  | some x => .ok (.float x)
  | none => .error (.unreadableNumber shown)

/-- Prepares a value for a column of booleans. -/
def prepareBoolean : Value → Except Error Value
  | .null => .ok .null
  | .bool b => .ok (.bool b)
  | .int n => if n = 0 ∨ n = 1 then .ok (.int n) else .error (.booleanOutOfRange n)
  | .float x =>
    match x.toInt? with
    | some 0 => .ok (.int 0)
    | some 1 => .ok (.int 1)
    | _ => .error (.notABoolean (Value.float x).display)
  | .bytes .growable _ => .error (.unhashableBoolean "bytearray")
  | .list _ => .error (.unhashableBoolean "list")
  | .object _ => .error (.unhashableBoolean "dict")
  | value => .error (.notABoolean value.display)

/-- Prepares a value for a column of byte strings. -/
def prepareBytes : Value → Except Error Value
  | .null => .ok .null
  | .bytes kind data => .ok (.bytes kind data)
  | value => .error (.notBytes value.kindName)

/-- Prepares a value for a column of doubles. -/
def prepareFloat : Value → Except Error Value
  | .null => .ok .null
  | .bool b => .ok (.float (.ofInt (if b then 1 else 0)))
  | .int n =>
    let x := Binary64.ofInt n
    if x.isFinite then .ok (.float x) else .error .oversizedNumber
  | .float x => .ok (.float x)
  | .text s => numberParameter (Text.quoted s) s.toList
  | .bytes kind data =>
    numberParameter (Value.bytes kind data).display (Bytes.toLatin1 data)
  | value => .error (.notANumber value.kindName)

/-- Prepares a value for a column of some type. -/
def ColumnType.prepare : ColumnType → Value → Except Error Value
  | .boolean, value => prepareBoolean value
  | .blob, value => prepareBytes value
  | .float, value => prepareFloat value
  | _, value => .ok value

end CardHealth.Store
