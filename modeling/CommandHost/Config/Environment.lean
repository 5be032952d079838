import CommandHost.Text.Blank
import CommandHost.Text.Case
import CommandHost.Value.Basic

/-!
# The configuration that is set in the environment

The environment is a mapping from names to texts. Level and format are read
without regard to case and margins, file and selector as they stand; an empty
text sets none of the four. The variable of the event log sets all three flags
of the bus as soon as it is there.
-/

namespace CommandHost

/-- The variables of an environment. -/
abbrev Environment := List (String × String)

namespace Environment

/-- The text of a variable. -/
def get? (environment : Environment) (name : String) : Option String := environment.lookup name

/-- The text of a variable, unless it is empty. -/
def filled? (environment : Environment) (name : String) : Option String :=
  (environment.get? name).filter (· ≠ "")

/-- The words that switch a flag on. -/
def onWords : List String := ["1", "true", "yes", "on"]

/-- Whether a text switches a flag on. -/
def switchesOn (content : String) : Bool :=
  onWords.contains (String.ofList (Text.smalls (Text.strip content.toList)))

/-- A section, unless it has no entries. -/
def sectionOf (name : String) (entries : List (String × Value)) : List (String × Value) :=
  if entries.isEmpty then [] else [(name, .map (Entries.ofTexts entries))]

/-- The entries of the logging section that are set. -/
def loggingEntries (environment : Environment) : List (String × Value) :=
  let level := (environment.filled? "XPELL_LOG_LEVEL").map fun content =>
    ("level", .text (String.ofList (Text.capitals (Text.strip content.toList))))
  let file := (environment.filled? "XPELL_LOG_FILE").map fun content => ("log_file", .text content)
  let format := (environment.filled? "XPELL_LOG_FORMAT").map fun content =>
    ("format", .text (String.ofList (Text.smalls (Text.strip content.toList))))
  level.toList ++ file.toList ++ format.toList

/-- The entries of the parser section that are set. -/
def parserEntries (environment : Environment) : List (String × Value) :=
  ((environment.filled? "XPELL_OBJECT_SELECTOR").map fun content =>
    ("object_selector", Value.text content)).toList

/-- The entries of the bus section that are set. -/
def busEntries (environment : Environment) : List (String × Value) :=
  match environment.get? "XPELL_LOG_EVENTS" with
  | none => []
  | some content =>
    let flag := Value.bool (switchesOn content)
    [("log_register", flag), ("log_remove", flag), ("log_fire", flag)]

/-- The configuration that is set, as a mapping of sections. -/
def toEntries (environment : Environment) : Entries :=
  .ofTexts
    (sectionOf "logging" environment.loggingEntries ++
      sectionOf "parser" environment.parserEntries ++
      sectionOf "event_bus" environment.busEntries)

end Environment

end CommandHost
