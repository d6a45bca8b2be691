import CardHealth.Text.Percent

/-!
# URL-encoded fields

A query string, or a form body of the same shape: fields divided by `&`, each with a name and a
value divided by the first `=`.  A field without `=` has an empty value, and empty fields are passed
over.

A query is there as a whole, and `fields` splits its text.  A body comes in pieces, so that
`bodyFields` reads it byte by byte and holds no more than the field that it is in.
-/

namespace CardHealth.Form.UrlEncoded

/-- The part of a text before the first `=`, and the part after it. -/
def splitField (s : List Char) : List Char × List Char :=
  (s.takeWhile (· != '='), (s.dropWhile (· != '=')).drop 1)

/-- The decoded name and value of a field. -/
def decodeField (s : List Char) : String × String :=
  let (name, value) := splitField s
  (String.ofList (Text.plusDecode name), String.ofList (Text.plusDecode value))

/-- The fields of a text, in order. -/
def fields (s : List Char) : List (String × String) :=
  ((s.splitOnP (· == '&')).filter fun field => !field.isEmpty).map decodeField

/-! ### Bodies -/

/-- The byte between two fields. -/
def ampersand : UInt8 := 38

/-- The byte between a name and a value. -/
def equalsSign : UInt8 := 61

/-- How far a body has been read: between two fields, in the name of a field or in its value.  What
was read of them is held with the last byte first. -/
inductive Reader where
  | between
  | inName (name : Bytes)
  | inValue (name value : Bytes)

namespace Reader

/-- The reader after a byte that does not end the field. -/
def step (b : UInt8) : Reader → Reader
  | .between => if b == equalsSign then .inValue [] [] else .inName [b]
  | .inName name => if b == equalsSign then .inValue name [] else .inName (b :: name)
  | .inValue name value => .inValue name (b :: value)

/-- The name and the value of the field that ends here, if there is one. -/
def field? : Reader → Option (Bytes × Bytes)
  | .between => none
  | .inName name => some (name.reverse, [])
  | .inValue name value => some (name.reverse, value.reverse)

/-- The names and the values in the rest of a body. -/
def read (reader : Reader) : Bytes → List (Bytes × Bytes)
  | [] => reader.field?.toList
  | b :: rest =>
    if b == ampersand then reader.field?.toList ++ between.read rest
    else (reader.step b).read rest

end Reader

/-- The text that a name or a value in a body stands for. -/
def decodeBytes (b : Bytes) : String :=
  String.ofList (Text.plusDecode (Bytes.toLatin1 b))

/-- The fields of a body, in order. -/
def bodyFields (body : Bytes) : List (String × String) :=
  (Reader.between.read body).map fun (name, value) => (decodeBytes name, decodeBytes value)

end CardHealth.Form.UrlEncoded
