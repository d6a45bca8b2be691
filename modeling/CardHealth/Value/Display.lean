import CardHealth.Value

/-!
# Values in messages

`Value.display` shows a value so that its kind can be seen, with texts and byte strings between
quotes; `Value.plain` shows a text as it is.
-/

namespace CardHealth

/-- One byte inside a byte string between quotes; a backslash goes before each mark. -/
def Bytes.quotedByte (isMark : Char → Bool) (b : UInt8) : List Char :=
  let c := Char.ofNat b.toNat
  if isMark c then ['\\', c]
  else if c == '\t' then ['\\', 't']
  else if c == '\n' then ['\\', 'n']
  else if c == '\r' then ['\\', 'r']
  else if 0x20 ≤ b ∧ b < 0x7F then [c]
  else '\\' :: 'x' :: Text.hexDigits 2 b.toNat

/-- A byte string between quotes, with escapes.  A growable one has an escape for every single
quote. -/
def Bytes.quoted (isGrowable : Bool) (b : Bytes) : String :=
  let quote := Text.quoteFor (Bytes.toLatin1 b)
  let isMark (c : Char) : Bool := c == quote || c == '\\' || (isGrowable && c == '\'')
  String.ofList ('b' :: quote :: b.flatMap (Bytes.quotedByte isMark) ++ [quote])

namespace Value

mutual

/-- A value as messages show it. -/
def display : Value → String
  | .null => "None"
  | .bool b => if b then "True" else "False"
  | .int n => Numeral.render n
  | .float x => FloatLayout.display.render x
  | .text s => Text.quoted s
  | .bytes .fixed data => Bytes.quoted false data
  | .bytes .growable data => s!"bytearray({Bytes.quoted true data})"
  | .bytes .view _ => "<memory>"
  | .list items => "[" ++ String.intercalate ", " (displayItems items) ++ "]"
  | .object fields => "\x7b" ++ String.intercalate ", " (displayFields fields) ++ "\x7d"

/-- The items of a displayed list. -/
def displayItems : List Value → List String
  | [] => []
  | item :: items => item.display :: displayItems items

/-- The fields of a displayed object. -/
def displayFields : List (String × Value) → List String
  | [] => []
  | (key, value) :: fields => (Text.quoted key ++ ": " ++ value.display) :: displayFields fields

end

/-- A text as it is, any other value as messages show it. -/
def plain : Value → String
  | .text s => s
  | value => value.display

/-- The name of a value's kind. -/
def kindName : Value → String
  | .null => "NoneType"
  | .bool _ => "bool"
  | .int _ => "int"
  | .float _ => "float"
  | .text _ => "str"
  | .bytes .fixed _ => "bytes"
  | .bytes .growable _ => "bytearray"
  | .bytes .view _ => "memoryview"
  | .list _ => "list"
  | .object _ => "dict"

end Value

end CardHealth
