import CardHealth.Config.Settings
import CardHealth.Log
import CardHealth.Text.Lowercase

/-!
# The command line

`card-monitor [-h] [--host HOST] [--port PORT] [--reload]` serves card status records.  Options may
be shortened as long as they stay unambiguous, and a value may follow its option after `=`.
`CommandLine.parse` reads the arguments, and `CommandLine.run` says what follows from them: help, a
usage error, a log level that is unknown, or one start of the server.
-/

namespace CardHealth.CommandLine

/-! ### Options -/

/-- An option. -/
inductive Flag where
  | help
  | host
  | port
  | reload
  deriving DecidableEq, Repr

/-- The spellings of all options. -/
def spellings : List (String × Flag) :=
  [("-h", .help), ("--help", .help), ("--host", .host), ("--port", .port), ("--reload", .reload)]

/-- Whether a value belongs to an option. -/
def Flag.takesValue : Flag → Bool
  | .host | .port => true
  | .help | .reload => false

/-- An option as messages name it. -/
def Flag.label : Flag → String
  | .help => "-h/--help"
  | .host => "--host"
  | .port => "--port"
  | .reload => "--reload"

/-- What is wrong with the arguments. -/
inductive Error where
  /-- A shortened option could be one of several. -/
  | ambiguous (argument : String) (candidates : List String)
  | missingValue (flag : Flag)
  | unreadableInteger (flag : Flag) (value : String)
  /-- An option without a value was given one. -/
  | needlessValue (flag : Flag) (value : String)
  | unrecognized (arguments : List String)
  deriving DecidableEq, Repr

/-- The message about wrong arguments. -/
def Error.message : Error → String
  | .ambiguous argument candidates =>
    s!"ambiguous option: {argument} could match " ++ String.intercalate ", " candidates
  | .missingValue flag => s!"argument {flag.label}: expected one argument"
  | .unreadableInteger flag value =>
    s!"argument {flag.label}: invalid int value: {Text.quoted value}"
  | .needlessValue flag value =>
    s!"argument {flag.label}: ignored explicit argument {Text.quoted value}"
  | .unrecognized arguments =>
    "unrecognized arguments: " ++ String.intercalate " " arguments

/-! ### Tokens -/

/-- A value given in the same argument as its option. -/
structure Attached where
  value : List Char
  /-- Whether an equals sign stands before it. -/
  afterEquals : Bool
  deriving DecidableEq, Repr

/-- What an argument is. -/
inductive Token where
  | option (flag : Flag) (attached : Option Attached)
  /-- It looks like an option but is none. -/
  | unknownOption
  | plain
  /-- The argument `--`; all arguments after it are plain. -/
  | separator
  deriving DecidableEq, Repr

/-- Whether a text is a negative decimal number; a line feed at its end is passed over. -/
def isNegativeNumber (s : List Char) : Bool :=
  let isDigits (s : List Char) : Bool := s.all fun c => (Text.decimalDigit? c).isSome
  match if s.getLast? = some '\n' then s.dropLast else s with
  | '-' :: body =>
    match body.splitOnP (· == '.') with
    | [whole] => !whole.isEmpty && isDigits whole
    | [whole, fraction] => isDigits whole && !fraction.isEmpty && isDigits fraction
    | _ => false
  | _ => false

/-- A text before its first equals sign, and the text after it if there is one. -/
def splitEquals (s : List Char) : List Char × Option (List Char) :=
  match s.dropWhile (· != '=') with
  | _ :: value => (s.takeWhile (· != '='), some value)
  | [] => (s, none)

/-- The options that a shortened argument could be. -/
def candidates (s : List Char) : List (String × Token) :=
  let attached (value : Option (List Char)) (afterEquals : Bool) : Option Attached :=
    value.map (Attached.mk · afterEquals)
  if "--".toList.isPrefixOf s then
    let (name, value) := splitEquals s
    let matching := spellings.filter fun (spelling, _) => name.isPrefixOf spelling.toList
    matching.map fun (spelling, flag) => (spelling, .option flag (attached value true))
  else
    spellings.filterMap fun (spelling, flag) =>
      if spelling.toList == s.take 2 then
        some (spelling, .option flag (attached (some (s.drop 2)) false))
      else if s.isPrefixOf spelling.toList then some (spelling, .option flag none)
      else none

/-- What an argument other than `--` is. -/
def classify (argument : String) : Except Error Token :=
  let s := argument.toList
  let (name, value) := splitEquals s
  if s.head? != some '-' then .ok .plain
  else
    match spellings.lookup argument, spellings.lookup (String.ofList name), value with
    | some flag, _, _ => .ok (.option flag none)
    | none, some flag, some value => .ok (.option flag (some ⟨value, true⟩))
    | _, _, _ =>
      if s.length == 1 then .ok .plain
      else
        match candidates s with
        | [(_, token)] => .ok token
        | [] => .ok (if isNegativeNumber s || s.contains ' ' then .plain else .unknownOption)
        | several => .error (.ambiguous argument (several.map (·.1)))

/-- Arguments with what they are. -/
def tokenize : List String → Except Error (List (Token × String))
  | [] => .ok []
  | argument :: rest =>
    if argument == "--" then .ok ((.separator, argument) :: rest.map fun a => (.plain, a))
    else do
      let token ← classify argument
      let tokens ← tokenize rest
      return (token, argument) :: tokens

/-! ### Parsing -/

/-- The options that were given. -/
structure Options where
  host : Option String := none
  port : Option Int := none
  reload : Bool := false
  deriving DecidableEq, Repr

/-- What the arguments ask for. -/
inductive Request where
  | help
  | serve (options : Options)
  deriving DecidableEq, Repr

/-- The options with a value set. -/
def Options.set (o : Options) (flag : Flag) (value : String) : Except Error Options :=
  match flag with
  | .host => .ok { o with host := some value }
  | .port =>
    match Numeral.read value.toList with
    | .ok n => .ok { o with port := some n }
    | .error _ => .error (.unreadableInteger .port value)
  | _ => .ok o

/-- Whether the letters after the short option for help are in order.  Further letters `h` are; at
any other letter reading stops, and a value is needless. -/
def checkShortHelp : List Char → Bool → Except Error Unit
  | [], _ => .error (.needlessValue .help "")
  | c :: rest, afterEquals =>
    if afterEquals || c == '-' then .error (.needlessValue .help (String.ofList (c :: rest)))
    else if c == 'h' then
      match rest with
      | [] => .ok ()
      | '=' :: [] => .error (.needlessValue .help "")
      | '=' :: value => .error (.needlessValue .help (String.ofList value))
      | rest => checkShortHelp rest false
    else .ok ()

/-- Whether an option without a value of its own may have what is attached to it. -/
def checkAttached (flag : Flag) (isShort : Bool) (attached : Attached) : Except Error Unit :=
  if isShort then checkShortHelp attached.value attached.afterEquals
  else .error (.needlessValue flag (String.ofList attached.value))

/-- Reads tokens; `extras` are the arguments that belong to nothing so far, the last one first. -/
def readTokens (options : Options) (extras : List String) :
    List (Token × String) → Except Error Request
  | [] =>
    if extras.isEmpty then .ok (.serve options) else .error (.unrecognized extras.reverse)
  | (.option flag (some attached), argument) :: rest =>
    if flag.takesValue then
      match options.set flag (String.ofList attached.value) with
      | .ok options => readTokens options extras rest
      | .error e => .error e
    else
      match checkAttached flag (!"--".toList.isPrefixOf argument.toList) attached with
      | .ok () => .ok .help
      | .error e => .error e
  | (.option .help none, _) :: _ => .ok .help
  | (.option .reload none, _) :: rest => readTokens { options with reload := true } extras rest
  | (.option flag none, _) :: (.plain, value) :: rest =>
    match options.set flag value with
    | .ok options => readTokens options extras rest
    | .error e => .error e
  | (.option flag none, _) :: _ => .error (.missingValue flag)
  | (_, argument) :: rest => readTokens options (argument :: extras) rest

/-- Reads the arguments. -/
def parse (arguments : List String) : Except Error Request := do
  readTokens {} [] (← tokenize arguments)

/-! ### Running -/

/-- The name of the program. -/
def program : String := "card-monitor"

/-- The line that shows how to call the program. -/
def usage : String :=
  s!"usage: {program} [-h] [--host HOST] [--port PORT] [--reload]\n"

/-- The help text. -/
def help : String :=
  usage ++
    "\n" ++
    "Serve card status records as JSON\n" ++
    "\n" ++
    "options:\n" ++
    "  -h, --help   show this help message and exit\n" ++
    "  --host HOST  Interface to bind\n" ++
    "  --port PORT  Port to run the API server on\n" ++
    "  --reload     Reload on code changes\n"

/-- What is printed about wrong arguments. -/
def Error.report (e : Error) : String :=
  usage ++ program ++ ": error: " ++ e.message ++ "\n"

/-- How the server is started. -/
structure Launch where
  host : String
  port : Int
  reload : Bool
  /-- The level of the server's own messages. -/
  logLevel : String
  deriving DecidableEq, Repr

/-- The application that the server runs. -/
def application : String := "cardmonitor.main:app"

/-- The logger of the program. -/
def logger : String := "cardmonitor.main"

/-- What the program does. -/
inductive Outcome where
  | helpShown
  | wrongUsage (error : Error)
  | unknownLevel (error : Log.UnknownLevel)
  | launched (launch : Launch)
  deriving DecidableEq, Repr

/-- A run of the program: its outcome, the root logger after it, and what was logged. -/
structure Run where
  outcome : Outcome
  root : Log.Root
  entries : List Log.Entry
  deriving DecidableEq, Repr

/-- The start of the server that options and settings ask for. -/
def launchFor (settings : Config.Settings) (options : Options) : Launch where
  host := options.host.getD settings.apiHost
  port := options.port.getD settings.apiPort
  reload := options.reload
  logLevel := Text.lower settings.logLevel

/-- The message that announces the start of the server. -/
def announcement (settings : Config.Settings) (launch : Launch) : Log.Entry where
  level := Log.levelName Log.info
  logger := logger
  message := s!"Starting {settings.appName} on {launch.host}:{Numeral.render launch.port}"

/-- Runs the program. -/
def run (settings : Config.Settings) (root : Log.Root) (arguments : List String) : Run :=
  match parse arguments with
  | .error e => ⟨.wrongUsage e, root, []⟩
  | .ok .help => ⟨.helpShown, root, []⟩
  | .ok (.serve options) =>
    match Log.configure root settings.logLevel with
    | (root, some e) => ⟨.unknownLevel e, root, []⟩
    | (root, none) =>
      let launch := launchFor settings options
      ⟨.launched launch, root, if root.lets Log.info then [announcement settings launch] else []⟩

/-- The status with which the program ends, unless an unknown level stops it. -/
def Outcome.exitCode? : Outcome → Option Nat
  | .helpShown => some 0
  | .wrongUsage _ => some 2
  | .unknownLevel _ => none
  | .launched _ => some 0

end CardHealth.CommandLine
