import CardHealth.Bytes
import CardHealth.Json

/-!
# Untyped values

The values that reach a record before its fields are checked: what a store returns, what a caller
passes, or what a JSON text denotes.
-/

namespace CardHealth

/-- The ways to hold a byte string: fixed, growable, or as a view on other memory. -/
inductive BytesKind where
  | fixed
  | growable
  | view
  deriving DecidableEq, Repr

/-- An untyped value. -/
inductive Value where
  | null
  | bool (b : Bool)
  | int (n : Int)
  | float (x : Binary64)
  | text (s : String)
  | bytes (kind : BytesKind) (data : Bytes)
  | list (items : List Value)
  | object (fields : List (String × Value))
  deriving Inhabited

namespace Value

mutual

/-- The value that a JSON value denotes. -/
def ofJson : Json → Value
  | .null => .null
  | .bool b => .bool b
  | .int n => .int n
  | .float x => .float x
  | .string s => .text s
  | .array items => .list (ofJsonItems items)
  | .object members => .object (ofJsonMembers members)

/-- The values of the items of an array. -/
def ofJsonItems : List Json → List Value
  | [] => []
  | item :: items => ofJson item :: ofJsonItems items

/-- The values of the members of an object. -/
def ofJsonMembers : List (String × Json) → List (String × Value)
  | [] => []
  | (key, value) :: members => (key, ofJson value) :: ofJsonMembers members

end

end Value

end CardHealth
