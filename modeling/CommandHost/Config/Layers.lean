import CommandHost.Config.Environment
import CommandHost.Config.Support
import CommandHost.Error.Report
import CommandHost.Log.Record

/-!
# The layers of a configuration

A configuration is read from three layers: the defaults, a file, and the
environment. A later layer goes into an earlier one key by key where both hold a
mapping, and otherwise replaces it. What the merged mapping is worth is for the
libraries to say; `RuntimeConfig.load` is loading with the usual ones.
-/

namespace CommandHost

/-- Why a configuration is refused. -/
inductive ConfigFault where
  /-- A file whose name has another ending than those that are read. -/
  | unsupported (ending path : String)
  /-- A file that is no YAML document. -/
  | unreadable (path : String)
  /-- A file that holds something else than a mapping. -/
  | notMapping (path : String)
  /-- Values that the checks refuse. -/
  | invalid (problems : List Problem)
  /-- A value in a file that is written in a way that its kind does not allow. -/
  | illegal (cause : IllegalUse)

namespace ConfigFault

/-- The report of a cause, unless it is an illegal use. -/
def report? : ConfigFault → Except IllegalUse Report
  | unsupported ending path =>
    .ok (.configuration
      ("Unsupported configuration file format: " ++ ending ++ ". Use YAML (.yaml/.yml).")
      (.ofTexts [("path", .text path)]))
  | unreadable path =>
    .ok (.configuration "Error loading configuration file" (.ofTexts [("path", .text path)]))
  | notMapping path =>
    .ok (.configuration "Configuration file must contain a mapping"
      (.ofTexts [("path", .text path)]))
  | invalid problems =>
    .ok (.configuration
      ("Invalid configuration: " ++ intText problems.length ++ " error(s)")
      (.ofTexts [("errors", .list (problems.map Problem.toValue))]))
  | illegal cause => .error cause

end ConfigFault

/-! ## Merging -/

mutual

/-- A value with another one on top: two mappings are merged, and otherwise the second
value counts. -/
def Value.overlay (value : Value) : Value → Value
  | .map others =>
    match value with
    | .map entries => .map (Entries.overlay entries others)
    | _ => .map others
  | other => other

/-- A mapping with the entries of another one on top of its own. -/
def Entries.overlay (entries : Entries) : List (Atom × Value) → Entries
  | [] => entries
  | (key, other) :: rest =>
    let value :=
      match entries.find? key with
      | some value => Value.overlay value other
      | none => other
    Entries.overlay (Entries.assign entries key value) rest

end

/-! ## Loading -/

/-- A configuration file: its name and, if it exists, its text. -/
structure ConfigFile where
  path : String
  text : Option String

namespace ConfigFile

/-- What stands between the slashes of a path. -/
def pieces : List Char → List (List Char)
  | [] => [[]]
  | c :: rest =>
    match c, pieces rest with
    | '/', all => [] :: all
    | c, first :: others => (c :: first) :: others
    | c, [] => [[c]]

/-- The components of a path: neither nothing at all nor a single point is one. -/
def components (path : String) : List (List Char) :=
  (pieces path.toList).filter fun piece => piece ≠ [] && piece ≠ ['.']

/-- The slashes at the beginning of a path that count: two of them are kept, more than two
are the same as one. -/
def root (path : String) : String :=
  match path.toList.takeWhile (· == '/') with
  | [] => ""
  | [_, _] => "//"
  | _ => "/"

/-- A path as it is written out, with its components only. -/
def tidyPath (path : String) : String :=
  let joined := root path ++ "/".intercalate ((components path).map String.ofList)
  if joined = "" then "." else joined

/-- The ending of a file name, which is the last component of the path: what begins at its
last point, unless that is its first or last character. -/
def ending (path : String) : String :=
  let name := (components path).getLast?.getD []
  let behind := (name.reverse.takeWhile (· ≠ '.')).length
  if 0 < behind && behind + 1 < name.length then
    String.ofList (name.drop (name.length - behind - 1))
  else ""

/-- The endings of files that are read, in small letters. -/
def endings : List String := [".yaml", ".yml"]

/-- The mapping that the text of a file holds. A value that counts as false is the
empty mapping. -/
def entries (support : ConfigSupport) (path text : String) : Except ConfigFault Entries :=
  let ending := ending path
  if !endings.contains (String.ofList (Text.smalls ending.toList)) then
    .error (.unsupported ending (tidyPath path))
  else
    match support.document text with
    | .error .malformed => .error (.unreadable (tidyPath path))
    | .error (.illegal cause) => .error (.illegal cause)
    | .ok value =>
      match value.orElse (.map []) with
      | .map entries => .ok entries
      | _ => .error (.notMapping (tidyPath path))

end ConfigFile

/-- What loading a configuration gives, and what it logs. -/
structure Loaded where
  logs : List LogRecord
  outcome : Except ConfigFault RuntimeConfig

namespace ConfigSupport

variable (support : ConfigSupport)

/-- Checks a mapping and reads a configuration from it. -/
def accept (entries : Entries) : Except ConfigFault RuntimeConfig :=
  (support.validate entries).mapError .invalid

/-- The defaults with a file and an environment on top of them. -/
def merged (file : Entries) (environment : Environment) : Entries :=
  ((support.dump .standard).overlay file).overlay environment.toEntries

/-- The configuration of a file and an environment, on top of the defaults. -/
def layered (file : Entries) (environment : Environment) : Except ConfigFault RuntimeConfig :=
  support.accept (support.merged file environment)

/-- The configuration of an environment alone. -/
def ofEnvironment (environment : Environment) : Except ConfigFault RuntimeConfig :=
  support.accept environment.toEntries

/-- Loads the configuration of a file, if one is named, and an environment. A file that
does not exist is logged and left out. -/
def load (file : Option ConfigFile) (environment : Environment) : Loaded :=
  match file with
  | none => ⟨[], support.layered [] environment⟩
  | some ⟨path, none⟩ =>
    if path = "" then ⟨[], support.layered [] environment⟩
    else
      ⟨[.plain .warning ("Configuration file not found: " ++ path)],
        support.layered [] environment⟩
  | some ⟨path, some text⟩ =>
    if path = "" then ⟨[], support.layered [] environment⟩
    else
      ⟨[], (ConfigFile.entries support path text).bind fun entries =>
        support.layered entries environment⟩

/-- The file in which a configuration is saved, given how a mapping is written as a
text. -/
def save (emit : Entries → String) (config : RuntimeConfig) (path : String) : ConfigFile :=
  ⟨path, some (emit (support.dumpPlain config))⟩

end ConfigSupport

namespace RuntimeConfig

/-- The configuration of a file and an environment, with the usual libraries. -/
def layered (file : Entries) (environment : Environment) : Except ConfigFault RuntimeConfig :=
  ConfigSupport.standard.layered file environment

/-- The configuration of an environment alone. -/
def ofEnvironment (environment : Environment) : Except ConfigFault RuntimeConfig :=
  ConfigSupport.standard.ofEnvironment environment

/-- Loads a configuration with the usual libraries. -/
def load (file : Option ConfigFile) (environment : Environment) : Loaded :=
  ConfigSupport.standard.load file environment

end RuntimeConfig

end CommandHost
