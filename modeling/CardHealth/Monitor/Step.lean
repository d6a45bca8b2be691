import CardHealth.SmokeClient

/-!
# Steps in the life of a monitor

Everything that can happen to the service and around it: changes of the store and of the host,
requests, and other uses of its connections, settings and engine.  `Monitor.perform` performs one
step, and `Monitor.run` one after the other.
-/

namespace CardHealth.Monitor

open Config

/-- Something that happens to the service or around it. -/
inductive Step where
  /-- Cards and snapshots are inserted, all of them or none. -/
  | load (mode : Store.InsertMode) (cards snapshots : List (List (String × Value)))
  | update (table : Store.TableName) (condition assignment : List (String × Value))
  | delete (table : Store.TableName) (condition : List (String × Value))
  | createTables (enforced : Bool)
  | dropTable (table : Store.TableName)
  | list (since : Option Int)
  | request (request : Http.Request)
  | openAndClose
  | session (query : Bool) (thrown : Option String)
  /-- The smoke client is run. -/
  | smoke (raises : Bool) (clock : SmokeClient.Clock)
  | setVariables (changes : List (String × Option String))
  | writeFile (name : String) (content : Bytes)
  | makeDirectory (name : String)
  | clear (settings engine : Bool)
  | settings
  | engine
  | reload

/-- What comes of a step. -/
inductive Answer where
  | done
  | failed (failure : Failure)
  /-- How many rows were changed. -/
  | changed (rows : Nat)
  | records (records : List CardStatus)
  | reply (reply : Reply)
  /-- Whether the connection was closed before and after it was closed. -/
  | closed (before after : Bool)
  | session (session : Session)
  | smoke (run : SmokeClient.Run)
  | settings (settings : Settings)
  /-- The engine, whether it was kept already, and whether it is had again. -/
  | engine (engine : Engine) (wasKept isKept : Bool)
  /-- The name of the application that was loaded. -/
  | loaded (appName : String)

/-- The answer for an outcome. -/
def Answer.ofOutcome {α : Type} (answer : α → Answer) :
    Except Failure α × Monitor → Answer × Monitor
  | (.ok result, m) => (answer result, m)
  | (.error f, m) => (.failed f, m)

/-- A change of the database that has no result. -/
def withoutResult (outcome : Except Store.Error Store.Database) :
    Except Store.Error (Store.Database × Unit) :=
  outcome.map (·, ())

/-- Asks for the engine twice. -/
def performEngine (m : Monitor) : Answer × Monitor :=
  match m.engine with
  | (.error f, next) => (.failed f, next)
  | (.ok engine, next) =>
    match next.engine with
    | (.ok again, last) => (.engine engine m.keptEngine.isSome (again = engine), last)
    | (.error f, last) => (.failed f, last)

/-- Performs a step. -/
def perform (m : Monitor) : Step → Answer × Monitor
  | .load mode cards snapshots =>
    Answer.ofOutcome (fun _ => .done) <|
      m.change fun db => withoutResult (db.load mode cards snapshots)
  | .update table condition assignment =>
    Answer.ofOutcome .changed <| m.change fun db => db.update table condition assignment
  | .delete table condition =>
    Answer.ofOutcome .changed <| m.change fun db => db.delete table condition
  | .createTables enforced =>
    Answer.ofOutcome (fun _ => .done) <|
      m.change fun db => withoutResult (.ok (db.createTables enforced))
  | .dropTable table =>
    Answer.ofOutcome (fun _ => .done) <|
      m.change fun db => withoutResult (.ok (db.drop table))
  | .list since => Answer.ofOutcome .records (m.list since)
  | .request r =>
    let (reply, m) := m.respond r
    (.reply reply, m)
  | .openAndClose => Answer.ofOutcome (fun (before, after) => .closed before after) m.openAndClose
  | .session query thrown => Answer.ofOutcome .session (m.session query thrown)
  | .smoke raises clock =>
    let (run, m) := SmokeClient.run m raises clock
    (.smoke run, m)
  | .setVariables changes =>
    (.done, { m with host := changes.foldl (fun h c => h.setVariable c.1 c.2) m.host })
  | .writeFile name content =>
    (.done, { m with host := m.host.put (Host.pathOf name) (.file content) })
  | .makeDirectory name => (.done, { m with host := m.host.makeDirectory (Host.pathOf name) })
  | .clear settings engine => (.done, m.clear settings engine)
  | .settings => Answer.ofOutcome .settings m.settings
  | .engine => m.performEngine
  | .reload => Answer.ofOutcome .loaded m.reload

/-- Performs steps one after the other. -/
def run (m : Monitor) : List Step → List Answer × Monitor
  | [] => ([], m)
  | step :: steps =>
    let (answer, m) := m.perform step
    let (answers, m) := m.run steps
    (answer :: answers, m)

end CardHealth.Monitor
