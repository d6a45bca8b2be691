import CardHealth.Binary64.Layout
import CardHealth.Entries
import CardHealth.Numeral
import CardHealth.Text.Quoted

/-!
# JSON values and their text

Objects keep the order of their keys, and whole numbers are kept apart from numbers with a point or
an exponent, so that an integer of any size survives.  `Json.render` is the compact text with
non-ASCII characters as they are; `Json.display` is the form in which console output shows a value.
-/

namespace CardHealth

/-- A JSON value. -/
inductive Json where
  | null
  | bool (b : Bool)
  | int (n : Int)
  | float (x : Binary64)
  | string (s : String)
  | array (items : List Json)
  | object (members : List (String × Json))
  deriving Inhabited

namespace Json

/-! ### Compact text -/

/-- Numbers in JSON text: positional from `10 ^ -5` to below `10 ^ 16`, short exponents, and no word
for a number that is not finite. -/
def floatLayout : FloatLayout :=
  ⟨-5, 15, 1, false, true, "null", "null", "null"⟩

/-- One character inside a JSON string. -/
def escapeChar (c : Char) : List Char :=
  if c == '"' || c == '\\' then ['\\', c]
  else if c.toNat < 0x20 then
    match c.toNat with
    | 0x08 => ['\\', 'b']
    | 0x09 => ['\\', 't']
    | 0x0A => ['\\', 'n']
    | 0x0C => ['\\', 'f']
    | 0x0D => ['\\', 'r']
    | n => '\\' :: 'u' :: Text.hexDigits 4 n
  else [c]

/-- A JSON string. -/
def renderString (s : String) : String :=
  String.ofList ('"' :: s.toList.flatMap escapeChar ++ ['"'])

mutual

/-- The compact text of a value. -/
def render : Json → String
  | .null => "null"
  | .bool b => if b then "true" else "false"
  | .int n => Numeral.render n
  | .float x => floatLayout.render x
  | .string s => renderString s
  | .array items => "[" ++ String.intercalate "," (renderItems items) ++ "]"
  | .object members =>
    "\x7b" ++ String.intercalate "," (renderMembers members) ++ "\x7d"

/-- The texts of the items of an array. -/
def renderItems : List Json → List String
  | [] => []
  | item :: items => item.render :: renderItems items

/-- The texts of the members of an object. -/
def renderMembers : List (String × Json) → List String
  | [] => []
  | (key, value) :: members =>
    (renderString key ++ ":" ++ value.render) :: renderMembers members

end

/-! ### Displayed values -/

mutual

/-- A value as console output shows it, with texts between quotes. -/
def display : Json → String
  | .null => "None"
  | .bool b => if b then "True" else "False"
  | .int n => Numeral.render n
  | .float x => FloatLayout.display.render x
  | .string s => Text.quoted s
  | .array items => "[" ++ String.intercalate ", " (displayItems items) ++ "]"
  | .object members =>
    "\x7b" ++ String.intercalate ", " (displayMembers members) ++ "\x7d"

/-- The items of a displayed array. -/
def displayItems : List Json → List String
  | [] => []
  | item :: items => item.display :: displayItems items

/-- The members of a displayed object. -/
def displayMembers : List (String × Json) → List String
  | [] => []
  | (key, value) :: members =>
    (Text.quoted key ++ ": " ++ value.display) :: displayMembers members

end

/-! ### Access -/

/-- The value of a member of an object; of several with one key, the last. -/
def member? (key : String) : Json → Option Json
  | .object members => lastNamed? key members
  | _ => none

end Json

end CardHealth
