import CardHealth.Binary64.Reader
import CardHealth.Text.Lowercase
import CardHealth.Text.Quoted

/-!
# Options of connections

The query of an address sets options of the connections to the database.  Some of them have to be
truth values or numbers; any other option is taken as it is.
-/

namespace CardHealth.Engine

/-- What the value of an option has to be. -/
inductive OptionKind where
  | truth
  | integer
  | real
  deriving DecidableEq, Repr

/-- Why an option is refused. -/
inductive OptionError where
  | notATruth (value : String)
  | notAnInteger (value : String)
  /-- The value has this many digits. -/
  | oversizedInteger (digits : Nat)
  | notAReal (value : String)
  /-- An integer is given more than once. -/
  | severalIntegers
  /-- A real number is given more than once. -/
  | severalReals
  deriving DecidableEq, Repr

/-- The message about an option that is refused. -/
def OptionError.message : OptionError → String
  | .notATruth value => s!"String is not true/false: {Text.quoted value}"
  | .notAnInteger value => s!"invalid literal for int() with base 10: {Text.quoted value}"
  | .oversizedInteger digits => Numeral.oversizedMessage digits
  | .notAReal value => s!"could not convert string to float: {Text.quoted value}"
  | .severalIntegers =>
    "int() argument must be a string, a bytes-like object or a real number, not 'tuple'"
  | .severalReals => "float() argument must be a string or a real number, not 'tuple'"

/-- The words for the two truth values. -/
def truthWords : List String :=
  ["true", "yes", "on", "y", "t", "1", "false", "no", "off", "n", "f", "0"]

/-- The error of a value that is not of a kind. -/
def OptionKind.errorOf? (kind : OptionKind) (value : String) : Option OptionError :=
  match kind with
  | .truth =>
    let word := Text.lower (String.ofList (Text.trimBy Text.isSpacing value.toList))
    if truthWords.contains word then none else some (.notATruth word)
  | .integer =>
    match Numeral.read value.toList with
    | .ok _ => none
    | .error .malformed => some (.notAnInteger value)
    | .error (.tooLong digits) => some (.oversizedInteger digits)
  | .real => if (Binary64.read? value.toList).isSome then none else some (.notAReal value)

/-- The error of the values that an option is given; several truth values are no error. -/
def OptionKind.errorOfAll? (kind : OptionKind) : List String → Option OptionError
  | [] => none
  | [value] => kind.errorOf? value
  | _ =>
    match kind with
    | .truth => none
    | .integer => some .severalIntegers
    | .real => some .severalReals

/-- The options of a file database with a kind, in the order in which they are looked at. -/
def sqliteOptions : List (String × OptionKind) :=
  [("uri", .truth), ("timeout", .real), ("detect_types", .integer), ("check_same_thread", .truth),
   ("cached_statements", .integer)]

/-- The options of a server with a kind, in the order in which they are looked at. -/
def mysqlOptions : List (String × OptionKind) :=
  [("compress", .truth), ("connect_timeout", .integer), ("read_timeout", .integer),
   ("write_timeout", .integer), ("client_flag", .integer), ("local_infile", .truth),
   ("use_unicode", .truth), ("ssl_check_hostname", .truth)]

/-- The first error among options. -/
def optionError? (kinds : List (String × OptionKind)) (query : List (String × List String)) :
    Option OptionError :=
  kinds.findSome? fun (name, kind) => (query.lookup name).bind kind.errorOfAll?

end CardHealth.Engine
