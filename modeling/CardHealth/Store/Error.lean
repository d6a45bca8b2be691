import CardHealth.Value.Display

/-!
# Failures of the store
-/

namespace CardHealth.Store

/-- Why the store refuses a statement. -/
inductive Error where
  | notADatabase
  | noSuchTable (table : String)
  /-- An insertion names a column that the table does not have. -/
  | unknownColumn (table column : String)
  /-- A condition or an assignment names a column that the table does not have. -/
  | noSuchColumn (column : String)
  | nullColumn (table column : String)
  | duplicateKey (table : String) (columns : List String)
  /-- An integer has no 64-bit representation. -/
  | oversizedInteger
  /-- A parameter is of a kind that cannot be stored; parameters are counted from one. -/
  | unsupportedKind (position : Nat) (kind : String)
  | unhashableBoolean (kind : String)
  | notABoolean (shown : String)
  | booleanOutOfRange (n : Int)
  | notBytes (kind : String)
  | unreadableNumber (shown : String)
  | notANumber (kind : String)
  | oversizedNumber
  deriving DecidableEq, Repr

/-- The message about a failure. -/
def Error.message : Error → String
  | .notADatabase => "file is not a database"
  | .noSuchTable table => s!"no such table: {table}"
  | .unknownColumn table column => s!"table {table} has no column named {column}"
  | .noSuchColumn column => s!"no such column: {column}"
  | .nullColumn table column => s!"NOT NULL constraint failed: {table}.{column}"
  | .duplicateKey table columns =>
    "UNIQUE constraint failed: " ++ String.intercalate ", " (columns.map fun c => s!"{table}.{c}")
  | .oversizedInteger => "Python int too large to convert to SQLite INTEGER"
  | .unsupportedKind position kind =>
    s!"Error binding parameter {position}: type '{kind}' is not supported"
  | .unhashableBoolean kind => s!"unhashable type: '{kind}'"
  | .notABoolean shown => s!"Not a boolean value: {shown}"
  | .booleanOutOfRange n => s!"Value {Numeral.render n} is not None, True, or False"
  | .notBytes kind => s!"memoryview: a bytes-like object is required, not '{kind}'"
  | .unreadableNumber shown => s!"could not convert string to float: {shown}"
  | .notANumber kind => s!"float() argument must be a string or a real number, not '{kind}'"
  | .oversizedNumber => "int too large to convert to float"

end CardHealth.Store
