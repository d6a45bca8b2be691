import CardHealth.Config.DatabaseUrl
import CardHealth.Config.DotEnv
import CardHealth.Text.Lowercase
import CardHealth.Validation

/-!
# Settings

The eleven settings of the service.  Each is taken from the first source that has it: an argument, a
variable of the environment, a variable file, or its default.  The variables are named after the
settings with a common beginning, and letter case does not matter in their names.  Only the value
that is taken is checked.
-/

namespace CardHealth.Config

/-- The settings of the service. -/
structure Settings where
  appName : String := "Card Monitor"
  apiHost : String := "127.0.0.1"
  apiPort : Int := 8787
  mysqlHost : String := "localhost"
  mysqlUser : String := "root"
  mysqlPassword : String := ""
  mysqlDbname : String := "mfst"
  mysqlPort : Int := 3306
  mysqlConnectTimeout : Int := 5
  databaseUrl : Option String := none
  logLevel : String := "INFO"
  deriving DecidableEq, Repr

namespace Settings

/-! ### Sources -/

/-- Where settings come from. -/
structure Sources where
  arguments : List (String × Value)
  environment : List (String × String)
  /-- The variables of the variable file, in order; one without a value sets nothing. -/
  file : List (String × Option String)

/-- The beginning of the names of all variables. -/
def variablePrefix : String := "cardmonitor_"

/-- Entries under names in small letters.  Entries of one exact name count as one, in the place of
the first and with the value of the last. -/
def foldNames {α : Type} (entries : List (String × α)) : List (String × α) :=
  (entries.map (·.1)).eraseDups.filterMap fun name =>
    (lastNamed? name entries).map (Text.lower name, ·)

/-- The value of an argument: that of its exact name, or else of its name in another case. -/
def argument? (arguments : List (String × Value)) (name : String) : Option Value :=
  match lastNamed? name arguments with
  | some value => some value
  | none => lastNamed? name (foldNames arguments)

/-- The value of a setting, if a source has it. -/
def Sources.value? (sources : Sources) (name : String) : Option Value :=
  let variableName := variablePrefix ++ name
  match argument? sources.arguments name with
  | some value => some value
  | none =>
    match lastNamed? variableName (foldNames sources.environment) with
    | some s => some (.text s)
    | none => ((lastNamed? variableName (foldNames sources.file)).join).map .text

/-! ### Checking -/

/-- The value of a setting, checked, or its default. -/
def Sources.setting {α : Type} (sources : Sources) (name : String)
    (check : Value → Except Fault α) (default : α) : Except Fault α :=
  match sources.value? name with
  | some value => check value
  | none => .ok default

/-- Checks a text that may be absent. -/
def checkOptionalText : Value → Except Fault (Option String)
  | .null => .ok none
  | value => value.toText.map some

/-- The settings that sources give. -/
def load (sources : Sources) : Except Refusal Settings :=
  let standard : Settings := {}
  let appName := sources.setting "app_name" Value.toText standard.appName
  let apiHost := sources.setting "api_host" Value.toText standard.apiHost
  let apiPort := sources.setting "api_port" Value.toInt standard.apiPort
  let mysqlHost := sources.setting "mysql_host" Value.toText standard.mysqlHost
  let mysqlUser := sources.setting "mysql_user" Value.toText standard.mysqlUser
  let mysqlPassword := sources.setting "mysql_password" Value.toText standard.mysqlPassword
  let mysqlDbname := sources.setting "mysql_dbname" Value.toText standard.mysqlDbname
  let mysqlPort := sources.setting "mysql_port" Value.toInt standard.mysqlPort
  let mysqlConnectTimeout :=
    sources.setting "mysql_connect_timeout" Value.toInt standard.mysqlConnectTimeout
  let databaseUrl := sources.setting "database_url" checkOptionalText standard.databaseUrl
  let logLevel := sources.setting "log_level" Value.toText standard.logLevel
  match appName, apiHost, apiPort, mysqlHost, mysqlUser, mysqlPassword, mysqlDbname, mysqlPort,
      mysqlConnectTimeout, databaseUrl, logLevel with
  | .ok appName, .ok apiHost, .ok apiPort, .ok mysqlHost, .ok mysqlUser, .ok mysqlPassword,
      .ok mysqlDbname, .ok mysqlPort, .ok mysqlConnectTimeout, .ok databaseUrl, .ok logLevel =>
    .ok { appName, apiHost, apiPort, mysqlHost, mysqlUser, mysqlPassword, mysqlDbname, mysqlPort,
          mysqlConnectTimeout, databaseUrl, logLevel }
  | _, _, _, _, _, _, _, _, _, _, _ =>
    .error ⟨"Settings", collectFaults
      [("app_name", faultOf? appName), ("api_host", faultOf? apiHost),
       ("api_port", faultOf? apiPort), ("mysql_host", faultOf? mysqlHost),
       ("mysql_user", faultOf? mysqlUser), ("mysql_password", faultOf? mysqlPassword),
       ("mysql_dbname", faultOf? mysqlDbname), ("mysql_port", faultOf? mysqlPort),
       ("mysql_connect_timeout", faultOf? mysqlConnectTimeout),
       ("database_url", faultOf? databaseUrl), ("log_level", faultOf? logLevel)]⟩

/-- Why settings cannot be had: the variable file is no text, or values are refused. -/
inductive LoadError where
  | file (error : Text.Utf8Error)
  | refused (refusal : Refusal)

/-- The settings that arguments, an environment and the content of a variable file give. -/
def read (arguments : List (String × Value)) (environment : List (String × String))
    (file : Bytes) : Except LoadError Settings :=
  match DotEnv.read environment file with
  | .error e => .error (.file e)
  | .ok assigned =>
    match load ⟨arguments, environment, assigned⟩ with
    | .error refusal => .error (.refused refusal)
    | .ok settings => .ok settings

/-- The settings as named values, in order. -/
def toFields (s : Settings) : List (String × Value) :=
  [("app_name", .text s.appName), ("api_host", .text s.apiHost), ("api_port", .int s.apiPort),
   ("mysql_host", .text s.mysqlHost), ("mysql_user", .text s.mysqlUser),
   ("mysql_password", .text s.mysqlPassword), ("mysql_dbname", .text s.mysqlDbname),
   ("mysql_port", .int s.mysqlPort), ("mysql_connect_timeout", .int s.mysqlConnectTimeout),
   ("database_url", (s.databaseUrl.map Value.text).getD .null), ("log_level", .text s.logLevel)]

/-! ### The address of the database -/

/-- The address made of the single settings; an empty password is no password. -/
def mysqlUrl (s : Settings) : DatabaseUrl where
  driver := "mysql+pymysql"
  user := some s.mysqlUser
  password := if s.mysqlPassword.isEmpty then none else some s.mysqlPassword
  host := some s.mysqlHost
  port := some s.mysqlPort
  database := some s.mysqlDbname
  query := []

/-- Where the database is: the text of an address, or an address made of the single settings. -/
inductive Location where
  | text (url : String)
  | url (url : DatabaseUrl)
  deriving DecidableEq, Repr

/-- The location of the database; an address given as a text counts unless it is empty. -/
def location (s : Settings) : Location :=
  match s.databaseUrl with
  | some text => if text.isEmpty then .url s.mysqlUrl else .text text
  | none => .url s.mysqlUrl

/-- The address of a location. -/
def Location.resolve : Location → Except DatabaseUrl.Error DatabaseUrl
  | .text s => DatabaseUrl.parse s
  | .url u => .ok u

end Settings

end CardHealth.Config
