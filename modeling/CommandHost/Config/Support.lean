import CommandHost.Config.Model
import CommandHost.Yaml.Content

/-!
# What a configuration asks of libraries

Two libraries have a part in loading a configuration: one checks values and whole
mappings and writes configurations out as mappings, the other reads documents. Here
they are parameters. `ConfigSupport.standard` is what the checks of this program
and its reader of documents make of them.
-/

namespace CommandHost

/-- What the libraries do. -/
structure ConfigSupport where
  /-- What is made of a value where a text, a text or null, a flag, a level or a format is
  asked for. -/
  text : Value → Checked String
  optionalText : Value → Checked (Option String)
  flag : Value → Checked Bool
  level : Value → Checked LogLevel
  format : Value → Checked LogFormat
  /-- The values that are levels and formats. -/
  levelMember : LogLevel → Value
  formatMember : LogFormat → Value
  /-- Checks a mapping and reads a configuration from it. -/
  validate : Entries → Checked RuntimeConfig
  /-- A configuration as a mapping, with levels and formats as they are. -/
  dump : RuntimeConfig → Entries
  /-- A configuration as a mapping of texts and flags, without the keys that hold null. -/
  dumpPlain : RuntimeConfig → Entries
  /-- The value of a document. -/
  document : String → Except Yaml.Fault Value

/-- The checks of this program, and its reader of documents. -/
def ConfigSupport.standard : ConfigSupport where
  text := readText
  optionalText := readOptionalText
  flag := readFlag
  level := readLevel
  format := readFormat
  levelMember := LogLevel.member
  formatMember := LogFormat.member
  validate := RuntimeConfig.read
  dump := RuntimeConfig.dumpLive
  dumpPlain := RuntimeConfig.savedEntries
  document := Yaml.read

end CommandHost
