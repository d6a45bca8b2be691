import CardHealth.Engine
import CardHealth.Store.StatusQuery

/-!
# The host of the service

What the service finds where it runs: the variables of the environment, the files in its working
directory, among them the variable file and the databases, and the reason why no server can be
reached.  `Host.connect` says what an engine finds when it opens a connection.
-/

namespace CardHealth

/-- What a path leads to. -/
inductive Entry where
  | directory
  | file (content : Bytes)
  | database (database : Store.Database)

/-- A connection to a database. -/
structure Connection where
  /-- The path of the database; one in memory has none. -/
  path : Option (List String)
  /-- The database, unless the file is none. -/
  database : Except Store.Error Store.Database

/-- The surroundings of the service. -/
structure Host where
  environment : List (String × String) := []
  /-- The entries below the working directory, by the components of their paths. -/
  entries : List (List String × Entry) := []
  /-- Why no server answers an engine, as its driver says. -/
  serverReason : Engine → String := Engine.unreachable

namespace Host

/-! ### Variables -/

/-- The value of a variable. -/
def valueOf? (h : Host) (name : String) : Option String :=
  lastNamed? name h.environment

/-- Gives a variable a value, or takes it away. -/
def setVariable (h : Host) (name : String) (value : Option String) : Host :=
  let environment :=
    match value with
    | none => h.environment.filter fun v => v.1 != name
    | some value =>
      if (h.valueOf? name).isSome then
        h.environment.map fun v => if v.1 == name then (name, value) else v
      else h.environment ++ [(name, value)]
  { h with environment }

/-! ### Files -/

/-- Adds a component to a path whose last component comes first. -/
def addComponent (path : List String) (component : String) : List String :=
  if component == "" || component == "." then path
  else if component == ".." then
    match path with
    | [] | ".." :: _ => ".." :: path
    | _ :: parent => parent
  else component :: path

/-- The components of a path; that of the root directory is a slash. -/
def pathOf (name : String) : List String :=
  let components := (name.toList.splitOnP (· == '/')).map String.ofList
  let start := if name.toList.head? == some '/' then ["/"] else []
  (components.foldl addComponent start).reverse

/-- What a path leads to. -/
def entry? (h : Host) (path : List String) : Option Entry :=
  if path.isEmpty then some .directory else lastNamed? path h.entries

/-- Whether a path leads to a directory. -/
def isDirectory (h : Host) (path : List String) : Bool :=
  match h.entry? path with
  | some .directory => true
  | _ => false

/-- Puts an entry at a path. -/
def put (h : Host) (path : List String) (entry : Entry) : Host :=
  { h with entries := (h.entries.filter fun e => e.1 != path) ++ [(path, entry)] }

/-- Makes a directory at a path, and all those above it. -/
def makeDirectory (h : Host) (path : List String) : Host :=
  ((List.range path.length).map fun n => path.take (n + 1)).foldl
    (fun h path => if (h.entry? path).isSome then h else h.put path .directory) h

/-- The path of the variable file. -/
def variableFilePath : List String := [".env"]

/-- The content of the variable file, empty if there is none. -/
def variableFile (h : Host) : Bytes :=
  match h.entry? variableFilePath with
  | some (.file content) => content
  | _ => []

/-! ### Connections -/

/-- The path of the database that an address names; one without a name is in memory. -/
def databasePath? (name : Option String) : Option (List String) :=
  match name with
  | none | some "" | some ":memory:" => none
  | some name => some (pathOf name)

/-- The reason why a file cannot be opened. -/
def cannotOpen : Engine.ConnectError :=
  .unavailable "unable to open database file"

/-- Opens the database at a path.  A file that is missing from a directory, or empty, is an empty
database; one with other content is opened too, and every statement fails. -/
def openFile (h : Host) (path : List String) : Except Engine.ConnectError Connection :=
  match h.entry? path with
  | some .directory => .error cannotOpen
  | some (.file []) => .ok ⟨some path, .ok .empty⟩
  | some (.file _) => .ok ⟨some path, .error .notADatabase⟩
  | some (.database database) => .ok ⟨some path, .ok database⟩
  | none =>
    if h.isDirectory path.dropLast then .ok ⟨some path, .ok .empty⟩ else .error cannotOpen

/-- Opens a connection. -/
def connect (h : Host) (e : Engine) : Except Engine.ConnectError Connection :=
  match e.backend with
  | .mysql _ => .error (e.connectServer (h.serverReason e))
  | .sqlite =>
    match databasePath? e.url.database with
    | none => .ok ⟨none, .ok .empty⟩
    | some path => h.openFile path

/-- Keeps the database behind a connection; one in memory is lost. -/
def save (h : Host) (c : Connection) (database : Store.Database) : Host :=
  match c.path with
  | none => h
  | some path => h.put path (.database database)

end Host

end CardHealth
