import CommandHost.Command.Settings
import CommandHost.Config.Problem
import CommandHost.Log.Level
import CommandHost.Text.Case

/-!
# The configuration

A configuration has four sections. `RuntimeConfig.read` checks a mapping and
reads a configuration from it: what the mapping lacks has its default value,
what it has too much is ignored. `RuntimeConfig.dump` gives the mapping of a
configuration as it is written to a file, with the names of levels and formats;
`RuntimeConfig.dumpLive` gives it with the levels and formats themselves, as it
is handed on within a program.
-/

namespace CommandHost

/-! ## Reading single values -/

/-- A value that has to be a text. -/
def readText : Value → Checked String
  | .text content => .ok content
  | _ => .problem .notText

/-- A value that has to be a text or null. -/
def readOptionalText : Value → Checked (Option String)
  | .null => .ok none
  | .text content => .ok (some content)
  | _ => .problem .notText

/-- What a level prints as when it is used as a value. -/
def LogLevel.label (level : LogLevel) : String := "LogLevel." ++ level.name

/-- A level as a value: an object that is known by its label. -/
def LogLevel.member (level : LogLevel) : Value := .object ⟨0, level.label⟩

/-- What a format prints as when it is used as a value. -/
def LogFormat.label (format : LogFormat) : String :=
  "LogFormat." ++ String.ofList (Text.capitals format.name.toList)

/-- A format as a value. -/
def LogFormat.member (format : LogFormat) : Value := .object ⟨0, format.label⟩

/-- A value that has to be a level, or the name of one. -/
def readLevel : Value → Checked LogLevel
  | .text content => Checked.found .notLevel (LogLevel.ofName? content)
  | .object handle =>
    Checked.found .notLevel (LogLevel.all.find? fun level => level.label == handle.label)
  | _ => .problem .notLevel

/-- A value that has to be a format, or the name of one. -/
def readFormat : Value → Checked LogFormat
  | .text content => Checked.found .notFormat (LogFormat.ofName? content)
  | .object handle =>
    Checked.found .notFormat (LogFormat.all.find? fun format => format.label == handle.label)
  | _ => .problem .notFormat

/-- The words for a flag that is off, in small letters. -/
def offWords : List String := ["0", "off", "f", "false", "n", "no"]

/-- The words for a flag that is on, in small letters. -/
def onWords : List String := ["1", "on", "t", "true", "y", "yes"]

/-- The numbers below this one fit into a signed machine word. -/
def wordLimit : Nat := 9223372036854775808

/-- Whether a number fits into a signed machine word. -/
def fitsWord : Int → Bool
  | .ofNat number => decide (number < wordLimit)
  | .negSucc number => decide (number < wordLimit)

/-- A number that has to be zero or one.  What is too large for a machine word is not even
taken for a number. -/
def readBit (fits : Bool) (number : Int) : Checked Bool :=
  if number = 0 then .ok false
  else if number = 1 then .ok true
  else .problem (if fits then .unreadFlag else .notFlag)

/-- A value that has to be a flag: a truth value, one of the words for it in whatever
case, or a number equal to zero or one. -/
def readFlag : Value → Checked Bool
  | .bool flag => .ok flag
  | .int number => readBit (fitsWord number) number
  | .float number =>
    match Decimal.integer? number with
    | some integer => readBit (decide (integer.natAbs < wordLimit)) integer
    | none => .problem .notFlag
  | .text content =>
    let word := String.ofList (Text.smallsAscii content.toList)
    if offWords.contains word then .ok false
    else if onWords.contains word then .ok true
    else .problem .unreadFlag
  | _ => .problem .notFlag

/-- A text that must not be empty or hold a blank. -/
def checkMarker (content : String) : Checked String :=
  if content = "" then .problem .emptyText
  else if content.toList.any Text.isBlank then .problem .blankInside
  else .ok content

/-- A value that has to be a text that is not empty and holds no blank. -/
def readMarker (value : Value) : Checked String := (readText value).bind checkMarker

/-! ## The sections -/

/-- How log records are written. -/
structure LoggingConfig where
  level : LogLevel
  logFile : Option String
  format : LogFormat
  deriving DecidableEq, Repr

namespace LoggingConfig

/-- The default of the section. -/
def standard : LoggingConfig := ⟨.info, none, .console⟩

/-- Reads the section. -/
def read (entries : Entries) : Checked LoggingConfig :=
  (((Checked.field entries "level" standard.level readLevel).both
    (Checked.field entries "log_file" standard.logFile readOptionalText)).both
    (Checked.field entries "format" standard.format readFormat)).map
      fun ((level, logFile), format) => ⟨level, logFile, format⟩

/-- The section as a mapping. -/
def dump (config : LoggingConfig) : Entries :=
  .ofTexts
    [("level", .text config.level.name), ("log_file", .optionalText config.logFile),
      ("format", .text config.format.name)]

/-- The section as a mapping that holds the level and the format themselves. -/
def dumpLive (config : LoggingConfig) : Entries :=
  .ofTexts
    [("level", config.level.member), ("log_file", .optionalText config.logFile),
      ("format", config.format.member)]

end LoggingConfig

namespace ReaderSettings

/-- Reads the section. -/
def read (entries : Entries) : Checked ReaderSettings :=
  ((Checked.field entries "object_selector" standard.selector readMarker).both
    (Checked.field entries "space_sentinel" standard.sentinel readMarker)).map
      fun (selector, sentinel) => ⟨selector, sentinel⟩

/-- The section as a mapping. -/
def dump (settings : ReaderSettings) : Entries :=
  .ofTexts
    [("object_selector", .text settings.selector), ("space_sentinel", .text settings.sentinel)]

end ReaderSettings

/-- What the event bus logs. -/
structure BusConfig where
  logRegister : Bool
  logRemove : Bool
  logFire : Bool
  deriving DecidableEq, Repr

namespace BusConfig

/-- The default of the section. -/
def standard : BusConfig := ⟨false, false, false⟩

/-- Reads the section. -/
def read (entries : Entries) : Checked BusConfig :=
  (((Checked.field entries "log_register" standard.logRegister readFlag).both
    (Checked.field entries "log_remove" standard.logRemove readFlag)).both
    (Checked.field entries "log_fire" standard.logFire readFlag)).map
      fun ((logRegister, logRemove), logFire) => ⟨logRegister, logRemove, logFire⟩

/-- The section as a mapping. -/
def dump (config : BusConfig) : Entries :=
  .ofTexts
    [("log_register", .bool config.logRegister), ("log_remove", .bool config.logRemove),
      ("log_fire", .bool config.logFire)]

end BusConfig

/-- What modules log, and the end of the key under which they count their objects. -/
structure ModuleConfig where
  logCreateObject : Bool
  logRemoveObject : Bool
  countSuffix : String
  deriving DecidableEq, Repr

namespace ModuleConfig

/-- The default of the section. -/
def standard : ModuleConfig := ⟨false, false, "-om-objects"⟩

/-- Reads the section. -/
def read (entries : Entries) : Checked ModuleConfig :=
  (((Checked.field entries "log_create_object" standard.logCreateObject readFlag).both
    (Checked.field entries "log_remove_object" standard.logRemoveObject readFlag)).both
    (Checked.field entries "object_count_suffix" standard.countSuffix readText)).map
      fun ((logCreateObject, logRemoveObject), countSuffix) =>
        ⟨logCreateObject, logRemoveObject, countSuffix⟩

/-- The section as a mapping. -/
def dump (config : ModuleConfig) : Entries :=
  .ofTexts
    [("log_create_object", .bool config.logCreateObject),
      ("log_remove_object", .bool config.logRemoveObject),
      ("object_count_suffix", .text config.countSuffix)]

end ModuleConfig

/-! ## The whole -/

/-- The names of the sections as classes. -/
structure SectionNames where
  logging : String
  parser : String
  bus : String
  modules : String
  whole : String

/-- The class names that are printed and that problems mention. -/
def SectionNames.plain : SectionNames :=
  ⟨"LoggingConfig", "ParserConfig", "EventBusConfig", "ModuleConfig", "RuntimeConfig"⟩

/-- A configuration. -/
structure RuntimeConfig where
  logging : LoggingConfig
  parser : ReaderSettings
  bus : BusConfig
  modules : ModuleConfig
  deriving DecidableEq, Repr

namespace RuntimeConfig

/-- The configuration that holds unless another one is given. -/
def standard : RuntimeConfig := ⟨.standard, .standard, .standard, .standard⟩

/-- Reads a section, which has to be a mapping. -/
def readSection {α : Type} (className : String) (read : Entries → Checked α) : Value → Checked α
  | .map entries => read entries
  | _ => .problem (.notSection className)

/-- Reads a configuration. -/
def read (entries : Entries) : Checked RuntimeConfig :=
  let names := SectionNames.plain
  ((((Checked.field entries "logging" .standard (readSection names.logging LoggingConfig.read)).both
    (Checked.field entries "parser" .standard (readSection names.parser ReaderSettings.read))).both
    (Checked.field entries "event_bus" .standard (readSection names.bus BusConfig.read))).both
    (Checked.field entries "modules" .standard (readSection names.modules ModuleConfig.read))).map
      fun (((logging, parser), bus), modules) => ⟨logging, parser, bus, modules⟩

/-- The sections of a configuration, each as a mapping. -/
def sections (config : RuntimeConfig) : List (String × Entries) :=
  [("logging", config.logging.dump), ("parser", config.parser.dump),
    ("event_bus", config.bus.dump), ("modules", config.modules.dump)]

/-- A configuration as a mapping. -/
def dump (config : RuntimeConfig) : Entries :=
  config.sections.map fun (name, entries) => (.text name, .map entries)

/-- A configuration as a mapping that holds the level and the format themselves. -/
def dumpLive (config : RuntimeConfig) : Entries :=
  .ofTexts
    [("logging", .map config.logging.dumpLive), ("parser", .map config.parser.dump),
      ("event_bus", .map config.bus.dump), ("modules", .map config.modules.dump)]

/-- The sections as they are saved: without the keys that hold null. -/
def saved (config : RuntimeConfig) : List (String × Entries) :=
  config.sections.map fun (name, entries) =>
    (name, entries.filter fun entry => !entry.2.isNull)

/-- The mapping of the saved sections. -/
def savedEntries (config : RuntimeConfig) : Entries :=
  config.saved.map fun (name, entries) => (.text name, .map entries)

end RuntimeConfig

/-- A short text for a value of a class: its name, and its level if it has one. -/
def summary (className : String) (level : Option LogLevel) : String :=
  match level with
  | none => "<" ++ className ++ ">"
  | some level => "<" ++ className ++ " level=\"LogLevel." ++ level.name ++ "\">"

end CommandHost
