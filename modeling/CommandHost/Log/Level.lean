/-!
# Levels and formats of log records

The five levels in rising order of severity, and the two formats in which the
records can be written.
-/

namespace CommandHost

/-- The levels of log records. -/
inductive LogLevel where
  | debug
  | info
  | warning
  | error
  | critical
  deriving DecidableEq, Repr, Inhabited

namespace LogLevel

/-- All levels in rising order. -/
def all : List LogLevel := [debug, info, warning, error, critical]

/-- The name of a level in a configuration. -/
def name : LogLevel → String
  | debug => "DEBUG"
  | info => "INFO"
  | warning => "WARNING"
  | error => "ERROR"
  | critical => "CRITICAL"

/-- The word for a level in a record. -/
def word : LogLevel → String
  | debug => "debug"
  | info => "info"
  | warning => "warning"
  | error => "error"
  | critical => "critical"

/-- How severe a level is. -/
def severity : LogLevel → Nat
  | debug => 10
  | info => 20
  | warning => 30
  | error => 40
  | critical => 50

/-- The level of a name. -/
def ofName? (name : String) : Option LogLevel := all.find? fun level => level.name == name

/-- The level of a word. -/
def ofWord? (word : String) : Option LogLevel := all.find? fun level => level.word == word

@[simp] theorem ofName?_name (level : LogLevel) : ofName? level.name = some level := by
  cases level <;> rfl

end LogLevel

/-- The formats in which log records are written. -/
inductive LogFormat where
  | json
  | console
  deriving DecidableEq, Repr, Inhabited

namespace LogFormat

/-- The name of a format in a configuration. -/
def name : LogFormat → String
  | json => "json"
  | console => "console"

/-- All formats. -/
def all : List LogFormat := [json, console]

/-- The format of a name. -/
def ofName? (name : String) : Option LogFormat := all.find? fun format => format.name == name

@[simp] theorem ofName?_name (format : LogFormat) : ofName? format.name = some format := by
  cases format <;> rfl

end LogFormat

end CommandHost
