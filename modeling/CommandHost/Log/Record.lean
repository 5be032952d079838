import CommandHost.Log.Level
import CommandHost.Value.Basic

/-!
# Log records

A record has a level, a message and fields. Records without fields come from
plain messages.
-/

namespace CommandHost

/-- One log record. -/
structure LogRecord where
  level : LogLevel
  message : String
  fields : Entries

/-- A record without fields. -/
def LogRecord.plain (level : LogLevel) (message : String) : LogRecord := ⟨level, message, []⟩

end CommandHost
