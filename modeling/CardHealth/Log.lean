import CardHealth.Calendar
import CardHealth.Text.Template
import CardHealth.Text.Uppercase

/-!
# Logging

Messages have levels, and a root logger lets those through that reach its own level.
`Log.configure` sets the root logger up once: the first call installs a handler, and after it no
call changes anything, even if the level that the first one named is unknown.
-/

namespace CardHealth.Log

/-! ### Levels -/

/-- The names of levels, and their numbers. -/
def levels : List (String × Nat) :=
  [("CRITICAL", 50), ("FATAL", 50), ("ERROR", 40), ("WARN", 30), ("WARNING", 30), ("INFO", 20),
   ("DEBUG", 10), ("NOTSET", 0)]

/-- The level of informational messages. -/
def info : Nat := 20

/-- The name of a level. -/
def levelName (level : Int) : String :=
  if level = 50 then "CRITICAL"
  else if level = 40 then "ERROR"
  else if level = 30 then "WARNING"
  else if level = 20 then "INFO"
  else if level = 10 then "DEBUG"
  else if level = 0 then "NOTSET"
  else s!"Level {Numeral.render level}"

/-! ### The root logger -/

/-- The root logger. -/
structure Root where
  level : Nat
  /-- The number of installed handlers. -/
  handlers : Nat
  deriving DecidableEq, Repr

namespace Root

/-- The root logger at the start: warnings pass, and nothing handles them. -/
def initial : Root :=
  ⟨30, 0⟩

/-- Whether the root logger lets a level through; no level of zero or less passes. -/
def lets (r : Root) (level : Int) : Bool :=
  0 < level && (r.level : Int) ≤ level

end Root

/-- A level whose name is unknown, in capitals. -/
structure UnknownLevel where
  name : String
  deriving DecidableEq, Repr

/-- The message about an unknown level. -/
def UnknownLevel.message (e : UnknownLevel) : String :=
  s!"Unknown level: {Text.quoted e.name}"

/-- Sets up the root logger for a level named in any case.  The new root logger comes with the
error, if there is one. -/
def configure (r : Root) (level : String) : Root × Option UnknownLevel :=
  if r.handlers = 0 then
    let name := Text.upper level
    match levels.lookup name with
    | some n => (⟨n, 1⟩, none)
    | none => ({ r with handlers := 1 }, some ⟨name⟩)
  else (r, none)

/-! ### Lines -/

/-- A message to be logged. -/
structure Record where
  logger : String
  level : Int
  template : String
  arguments : List Value
  /-- When it was made, in milliseconds since the beginning of 1970. -/
  created : Int

/-- The line for a text that was logged at a time, in milliseconds since the beginning of 1970. -/
def line (created : Int) (logger level text : String) : String :=
  (DateTime.ofMilliseconds created).render ++ " - " ++ logger ++ " - " ++ level ++ " - " ++ text

/-- The line for a message: time, logger, level and text. -/
def Record.render (r : Record) : Except Text.Template.Error String :=
  (Text.Template.render r.template r.arguments).map (line r.created r.logger (levelName r.level))

/-- A logged message with the name of its level. -/
structure Entry where
  level : String
  logger : String
  message : String
  deriving DecidableEq, Repr

end CardHealth.Log
