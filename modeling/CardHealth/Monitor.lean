import CardHealth.Failure
import CardHealth.Host
import CardHealth.Log

/-!
# The monitor

The state of the service between requests.  Settings and the engine are kept once they have been
had, until they are cleared; an attempt that fails keeps nothing.  Connections are opened for one
use each and closed after it, and what is logged is added to the log.
-/

namespace CardHealth

open Config

/-- The state of the service. -/
structure Monitor where
  host : Host
  /-- The settings that are kept. -/
  keptSettings : Option Settings
  /-- The engine that is kept. -/
  keptEngine : Option Engine
  /-- The name of the application, taken from the settings when it was loaded. -/
  appName : String
  /-- How many connections have been opened. -/
  opened : Nat
  /-- How many connections have been closed. -/
  closed : Nat
  /-- What has been logged, the latest message last. -/
  log : List Log.Entry

namespace Monitor

/-- The service on a host, with nothing kept, and an application loaded under the standard
settings. -/
def start (host : Host) : Monitor where
  host
  keptSettings := none
  keptEngine := none
  appName := ({} : Settings).appName
  opened := 0
  closed := 0
  log := []

/-- Logs a message. -/
def report (m : Monitor) (entry : Log.Entry) : Monitor :=
  { m with log := m.log ++ [entry] }

/-! ### Settings and the engine -/

/-- The settings: those that are kept, or those of the host. -/
def settings (m : Monitor) : Except Failure Settings × Monitor :=
  match m.keptSettings with
  | some settings => (.ok settings, m)
  | none =>
    match Settings.read [] m.host.environment m.host.variableFile with
    | .ok settings => (.ok settings, { m with keptSettings := some settings })
    | .error e => (.error (.settings e), m)

/-- The engine: the one that is kept, or the one for the settings. -/
def engine (m : Monitor) : Except Failure Engine × Monitor :=
  match m.keptEngine with
  | some engine => (.ok engine, m)
  | none =>
    match m.settings with
    | (.error f, m) => (.error f, m)
    | (.ok settings, m) =>
      match Engine.ofSettings settings with
      | .ok engine => (.ok engine, { m with keptEngine := some engine })
      | .error e => (.error (.engine e), m)

/-- Clears the settings, the engine or both. -/
def clear (m : Monitor) (settings engine : Bool) : Monitor :=
  { m with
    keptSettings := if settings then none else m.keptSettings
    keptEngine := if engine then none else m.keptEngine }

/-- Loads the application anew under the settings, and tells its name.  An application without a
name cannot be loaded, but the name counts all the same. -/
def reload (m : Monitor) : Except Failure String × Monitor :=
  match m.settings with
  | (.error f, m) => (.error f, m)
  | (.ok settings, m) =>
    let m := { m with appName := settings.appName }
    if settings.appName.isEmpty then (.error .untitled, m) else (.ok settings.appName, m)

/-! ### Connections -/

/-- Opens a connection of the engine. -/
def connect (m : Monitor) : Except Failure Connection × Monitor :=
  match m.engine with
  | (.error f, m) => (.error f, m)
  | (.ok engine, m) =>
    match m.host.connect engine with
    | .ok connection => (.ok connection, { m with opened := m.opened + 1 })
    | .error e => (.error (.connection engine e), m)

/-- Closes a connection. -/
def disconnect (m : Monitor) : Monitor :=
  { m with closed := m.closed + 1 }

/-- Whether no connection is open. -/
def isIdle (m : Monitor) : Bool :=
  m.opened == m.closed

/-- The message about a database that does not answer; it does not show the password. -/
def unavailableEntry (engine : Engine) (reason : String) : Log.Entry where
  level := "ERROR"
  logger := "cardmonitor.database"
  message := s!"Could not connect to {engine.url.renderHidden}: {reason}"

/-- Opens a connection of the engine for a request.  That the database does not answer is logged. -/
def openConnection (m : Monitor) : Except Failure Connection × Monitor :=
  match m.connect with
  | (.error (.connection engine (.unavailable reason)), m) =>
    (.error .unavailable, m.report (unavailableEntry engine reason))
  | other => other

/-! ### Queries and changes -/

/-- The message about the rows of a query. -/
def fetchedEntry (count : Nat) (since : Option Int) : Log.Entry where
  level := "DEBUG"
  logger := "cardmonitor.crud"
  message :=
    let bound := (since.map Numeral.render).getD "None"
    s!"Fetched {count} card status rows (since={bound})"

/-- The rows that the status query finds through a connection. -/
def rows (connection : Connection) (since : Option Int) :
    Except Failure (List Store.StatusRow) :=
  match connection.database.bind (Store.Database.statusRows · since) with
  | .ok rows => .ok rows
  | .error e => .error (.store e)

/-- The records of rows. -/
def recordsOf (rows : List Store.StatusRow) : Except Failure (List CardStatus) :=
  match Store.checkRows rows with
  | .ok records => .ok (Store.settle records)
  | .error refusal => .error (.row refusal)

/-- The records that the status query finds through a connection.  How many rows there are is
logged, also if one of them is no record. -/
def records (m : Monitor) (connection : Connection) (since : Option Int) :
    Except Failure (List CardStatus) × Monitor :=
  match rows connection since with
  | .error f => (.error f, m)
  | .ok rows => (recordsOf rows, m.report (fetchedEntry rows.length since))

/-- The records that the status query finds. -/
def list (m : Monitor) (since : Option Int) : Except Failure (List CardStatus) × Monitor :=
  match m.connect with
  | (.error f, m) => (.error f, m)
  | (.ok connection, m) =>
    let (outcome, m) := m.records connection since
    (outcome, m.disconnect)

/-- Changes the database.  A change that fails leaves it as it was. -/
def change {α : Type} (m : Monitor)
    (f : Store.Database → Except Store.Error (Store.Database × α)) : Except Failure α × Monitor :=
  match m.connect with
  | (.error f, m) => (.error f, m)
  | (.ok connection, m) =>
    match connection.database.bind f with
    | .error e => (.error (.store e), m.disconnect)
    | .ok (database, result) =>
      (.ok result, { m with host := m.host.save connection database }.disconnect)

/-! ### Sessions -/

/-- What happened in a session. -/
structure Session where
  /-- How many rows were found, if they were asked for. -/
  count : Option Nat
  /-- The message of the error that was thrown into it. -/
  thrown : Option String
  /-- Whether its connection was closed at its end. -/
  isClosed : Bool
  deriving DecidableEq, Repr

/-- Opens a session, queries the rows if asked to, and ends it, maybe by an error thrown into it. -/
def session (m : Monitor) (query : Bool) (thrown : Option String) :
    Except Failure Session × Monitor :=
  match m.openConnection with
  | (.error f, m) => (.error f, m)
  | (.ok connection, m) =>
    let count :=
      if query then (rows connection none).map fun rows => some rows.length else .ok none
    let m := m.disconnect
    match count with
    | .error f => (.error f, m)
    | .ok count => (.ok ⟨count, thrown, m.isIdle⟩, m)

/-- Opens a connection and closes it, and tells whether it was closed before and after that. -/
def openAndClose (m : Monitor) : Except Failure (Bool × Bool) × Monitor :=
  match m.openConnection with
  | (.error f, m) => (.error f, m)
  | (.ok _, m) => (.ok (m.isIdle, m.disconnect.isIdle), m.disconnect)

end Monitor

end CardHealth
