import CardHealth.Config.Settings
import CardHealth.Engine.Option

/-!
# Engines

An engine says how to reach a database: the dialect and the driver that its address names, and the
options for its connections.  Every connection is opened anew and closed after its use.
-/

namespace CardHealth

open Config

/-- The kind of database behind an engine. -/
inductive Backend where
  | sqlite
  /-- A MySQL server, or one that speaks its protocol, under the name of its dialect. -/
  | mysql (dialect : String)
  deriving DecidableEq, Repr

namespace Backend

/-- The name of the dialect. -/
def dialect : Backend → String
  | .sqlite => "sqlite"
  | .mysql dialect => dialect

/-- The name of the driver. -/
def driver : Backend → String
  | .sqlite => "pysqlite"
  | .mysql _ => "pymysql"

end Backend

/-- A way to reach a database. -/
structure Engine where
  url : DatabaseUrl
  backend : Backend
  /-- How many seconds opening a connection to a server may take. -/
  connectTimeout : Int
  deriving DecidableEq, Repr

namespace Engine

/-- Why there is no engine for some settings. -/
inductive Error where
  | address (error : DatabaseUrl.Error)
  /-- The address asks for an extension, and none is known. -/
  | unknownPlugin (name : String)
  /-- The dialect, or the driver of it, is not known. -/
  | unknownDialect (name : String)
  /-- The address names more than one driver. -/
  | severalDrivers
  /-- The driver is known but not installed. -/
  | missingDriver (module : String)
  /-- A file database has no user, password, host or port. -/
  | misplacedServer (url : DatabaseUrl)
  | option (error : OptionError)
  deriving DecidableEq, Repr

/-- The message about an engine that cannot be built. -/
def Error.message : Error → String
  | .address e => e.message
  | .unknownPlugin name => s!"Can't load plugin: sqlalchemy.plugins:{name}"
  | .unknownDialect name => s!"Can't load plugin: sqlalchemy.dialects:{name}"
  | .severalDrivers => "too many values to unpack (expected 2)"
  | .missingDriver module => s!"No module named '{module}'"
  | .misplacedServer url =>
    s!"Invalid SQLite URL: {url.renderHidden}\n" ++
      "Valid SQLite URL forms are:\n" ++
      " sqlite:///:memory: (or, sqlite://)\n" ++
      " sqlite:///relative/path/to/file.db\n" ++
      " sqlite:////absolute/path/to/file.db"
  | .option e => e.message

/-- A driver as the name of an address has it. -/
inductive DriverStatus where
  | installed (backend : Backend)
  | missing (module : String)
  deriving DecidableEq, Repr

/-- The drivers that are known for MySQL and compatible servers but not installed; the empty name
stands for an address that names none. -/
def missingMysqlDrivers : List (String × String) :=
  [("", "MySQLdb"), ("base", "MySQLdb"), ("mysqldb", "MySQLdb"), ("aiomysql", "aiomysql"),
   ("asyncmy", "asyncmy"), ("cymysql", "cymysql"), ("mysqlconnector", "mysql"),
   ("mariadbconnector", "mariadb"), ("pyodbc", "pyodbc")]

/-- The other drivers that are known but not installed, by dialect and driver. -/
def missingDrivers : List ((String × String) × String) :=
  [(("sqlite", "aiosqlite"), "aiosqlite"), (("sqlite", "pysqlcipher"), "pysqlcipher3"),
   (("postgresql", ""), "psycopg"), (("postgresql", "psycopg"), "psycopg"),
   (("postgresql", "psycopg_async"), "psycopg"), (("postgresql", "psycopg2"), "psycopg2"),
   (("postgresql", "psycopg2cffi"), "psycopg2cffi"), (("postgresql", "asyncpg"), "asyncpg"),
   (("postgresql", "pg8000"), "pg8000"), (("oracle", ""), "oracledb"),
   (("oracle", "oracledb"), "oracledb"), (("oracle", "cx_oracle"), "cx_Oracle"),
   (("mssql", ""), "pyodbc"), (("mssql", "pyodbc"), "pyodbc"),
   (("mssql", "aioodbc"), "aioodbc"), (("mssql", "pymssql"), "pymssql")]

/-- The driver with a name, if it is known. -/
def driverStatus? (dialect driver : String) : Option DriverStatus :=
  if dialect == "sqlite" && ["", "base", "pysqlite"].contains driver then
    some (.installed .sqlite)
  else if dialect == "mysql" || dialect == "mariadb" then
    if driver == "pymysql" then some (.installed (.mysql dialect))
    else (missingMysqlDrivers.lookup driver).map .missing
  else (missingDrivers.lookup (dialect, driver)).map .missing

/-- The backend that the driver component of an address names. -/
def backendOf (name : String) : Except Error Backend :=
  let find (dialect driver : String) (shown : String) : Except Error Backend :=
    match driverStatus? dialect driver with
    | some (.installed backend) => .ok backend
    | some (.missing module) => .error (.missingDriver module)
    | none => .error (.unknownDialect shown)
  match (name.toList.splitOnP (· == '+')).map String.ofList with
  | [dialect] => find dialect "" dialect
  | [dialect, driver] =>
    if driver.isEmpty then .error (.unknownDialect (dialect ++ "."))
    else find dialect driver (dialect ++ "." ++ driver)
  | _ => .error .severalDrivers

/-- Whether an address names a server. -/
def namesServer (url : DatabaseUrl) : Bool :=
  let isGiven (s : Option String) : Bool := s.any fun s => !s.isEmpty
  isGiven url.user || isGiven url.password || isGiven url.host || url.port.any (· != 0)

/-- The first extension that an address asks for. -/
def plugin? (url : DatabaseUrl) : Option String :=
  (url.query.lookup "plugin").bind List.head?

/-- An address without the list of extensions, which is no option. -/
def withoutPlugins (url : DatabaseUrl) : DatabaseUrl :=
  { url with query := url.query.filter fun option => option.1 != "plugins" }

/-- The options with a kind, for a backend. -/
def optionKinds : Backend → List (String × OptionKind)
  | .sqlite => sqliteOptions
  | .mysql _ => mysqlOptions

/-- The engine for an address. -/
def ofUrl (url : DatabaseUrl) (connectTimeout : Int) : Except Error Engine :=
  match plugin? url with
  | some name => .error (.unknownPlugin name)
  | none =>
    match backendOf url.driver with
    | .error e => .error e
    | .ok backend =>
      if backend = .sqlite && namesServer url then .error (.misplacedServer (withoutPlugins url))
      else
        match optionError? (optionKinds backend) url.query with
        | some e => .error (.option e)
        | none => .ok ⟨withoutPlugins url, backend, connectTimeout⟩

/-- The engine for settings. -/
def ofSettings (s : Settings) : Except Error Engine :=
  match s.location.resolve with
  | .error e => .error (.address e)
  | .ok url => ofUrl url s.mysqlConnectTimeout

/-- The options that every connection is opened with. -/
def connectArgs (e : Engine) : List (String × Value) :=
  match e.backend with
  | .sqlite => [("check_same_thread", .bool false)]
  | .mysql _ => [("connect_timeout", .int e.connectTimeout)]

/-- The name of the pool, which keeps no connections. -/
def pool : String := "NullPool"

/-- Whether statements are shown as they are executed. -/
def showsStatements : Bool := false

/-! ### Opening connections to a server -/

/-- The greatest number of seconds that opening a connection may be given: a year. -/
def greatestTimeout : Nat := 365 * 24 * 60 * 60

/-- Why a connection cannot be opened. -/
inductive ConnectError where
  /-- The database does not answer, for the reason its driver gives. -/
  | unavailable (reason : String)
  /-- A run of characters of the password has no place in the protocol: its first character, the
  place of it, and the length of the run. -/
  | unencodablePassword (c : Char) (position length : Nat)
  | timeoutOutOfRange
  deriving DecidableEq, Repr

/-- The message about a connection that cannot be opened. -/
def ConnectError.message : ConnectError → String
  | .unavailable reason => reason
  | .unencodablePassword c position length =>
    let place :=
      if length == 1 then s!"character '{String.ofList (escaped c)}' in position {position}"
      else s!"characters in position {position}-{position + length - 1}"
    s!"'latin-1' codec can't encode {place}: ordinal not in range(256)"
  | .timeoutOutOfRange => s!"connect_timeout should be >0 and <={greatestTimeout}"
where
  /-- A character beyond U+00FF as an escape. -/
  escaped (c : Char) : List Char :=
    if c.toNat < 0x10000 then '\\' :: 'u' :: Text.hexDigits 4 c.toNat
    else '\\' :: 'U' :: Text.hexDigits 8 c.toNat

/-- What the driver says if there is no way to the server of an engine. -/
def unreachable (e : Engine) : String :=
  let host := e.url.host.getD ""
  let host := if host.isEmpty then "localhost" else host
  let problem :=
    s!"Can't connect to MySQL server on {Text.quoted host} ([Errno 101] Network is unreachable)"
  s!"(2003, {Text.quoted problem})"

/-- Why the driver does not even look for the server of an engine: the password has to consist of
characters below U+0100, and the time has to be in range. -/
def refusal? (e : Engine) : Option ConnectError :=
  let password := (e.url.password.getD "").toList
  let isEncodable (c : Char) : Bool := c.toNat < 0x100
  match password.dropWhile isEncodable with
  | c :: rest =>
    some <| .unencodablePassword c (password.takeWhile isEncodable).length
      (1 + (rest.takeWhile fun c => !isEncodable c).length)
  | [] =>
    if 0 < e.connectTimeout ∧ e.connectTimeout ≤ greatestTimeout then none
    else some .timeoutOutOfRange

/-- What happens when a connection to the server of an engine is opened: no server answers, for the
reason that the driver gives. -/
def connectServer (e : Engine) (reason : String) : ConnectError :=
  e.refusal?.getD (.unavailable reason)

end Engine

end CardHealth
