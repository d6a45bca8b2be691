import CardHealth.Config.Settings
import CardHealth.Engine
import CardHealth.Form.Error
import CardHealth.Store.Error

/-!
# Failures

Everything that can keep the service from doing what it is asked for.
-/

namespace CardHealth

/-- Why something was not done. -/
inductive Failure where
  | settings (error : Config.Settings.LoadError)
  | engine (error : Engine.Error)
  /-- A connection of an engine could not be opened. -/
  | connection (engine : Engine) (error : Engine.ConnectError)
  /-- A connection could not be opened, and that was logged. -/
  | unavailable
  /-- A form cannot be read, and there is no response that says why. -/
  | form (error : Form.Error)
  | store (error : Store.Error)
  /-- A row of the store is no record. -/
  | row (refusal : Refusal)
  /-- The application has an empty name. -/
  | untitled

/-- The message about a failure; for a refused record, its name. -/
def Failure.message : Failure → String
  | .settings (.file e) => e.message
  | .settings (.refused refusal) => refusal.record
  | .engine e => e.message
  | .connection _ e => e.message
  | .unavailable => "Unable to connect to the MySQL server."
  | .form e => e.message
  | .store e => e.message
  | .row refusal => refusal.record
  | .untitled => "A title must be provided for OpenAPI, e.g.: 'My API'"

end CardHealth
