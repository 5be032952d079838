import CommandHost.Config.Model
import CommandHost.Log.Record
import CommandHost.Value.Print

/-!
# Writing log records

A sink takes the records that are as severe as its configuration asks for and
makes a line of each. A line has a head, which names the level and the logger,
and a body. The body of a plain record is its message; a structured record shows
its fields too, as a mapping or as columns.
-/

namespace CommandHost

/-- A record on its way to a sink: the logger that it comes from, and whether it is
structured. -/
structure SentRecord where
  logger : String
  structured : Bool
  record : LogRecord

/-- The body of a line: a text, or a mapping. -/
inductive LogBody where
  | line (content : String)
  | fields (entries : Entries)

/-- A line of a log. -/
structure LogLine where
  head : String
  body : LogBody

/-- The widths of the columns of structured lines. -/
structure LogColumns where
  head : Nat
  level : Nat
  message : Nat

/-- The columns that all sinks use. -/
def LogColumns.standard : LogColumns := ⟨8, 9, 30⟩

/-- A text filled up with blanks to a width. -/
def padRight (width : Nat) (text : String) : String :=
  text ++ String.ofList (List.replicate (width - text.length) ' ')

namespace LogRecord

/-- What the head of a line says: the level, padded, and the logger. -/
def head (record : LogRecord) (logger : String) : String :=
  "[" ++ padRight LogColumns.standard.head record.level.name ++ "] " ++ logger

/-- The fields of a structured record as a mapping. The level and the logger come
before fields of the same name. -/
def mapping (record : LogRecord) (logger : String) : Entries :=
  ((record.fields.set "event" (.text record.message)).set "level"
    (.text record.level.word)).set "logger" (.text logger)

/-- Whether a character makes a text stand in quotes. -/
def needsQuotes (c : Char) : Bool := [' ', '\t', '=', '\r', '\n', '"', '\''].contains c

/-- The value of a field in a line: a text stands as it is unless it needs quotes. -/
def fieldText : Value → String
  | .text content => if content.toList.any needsQuotes then Text.quotedString content else content
  | value => value.literal

/-- The names of the columns that are not shown as fields. -/
def columnNames : List String := ["event", "level", "logger"]

/-- The fields of a record in rising order of their names, each with its value. -/
def fieldTexts (record : LogRecord) : List String :=
  let shown := record.fields.map fun (key, value) => (key.print, fieldText value)
  let others := shown.filter fun (name, _) => !columnNames.contains name
  (others.mergeSort fun left right => decide (left.1 ≤ right.1)).map fun (name, value) =>
    name ++ "=" ++ value

/-- A structured record as columns. -/
def columns (record : LogRecord) (logger : String) : String :=
  let widths := LogColumns.standard
  " ".intercalate
    (["[" ++ padRight widths.level record.level.word ++ "]",
      padRight widths.message record.message, "[" ++ logger ++ "]"] ++ record.fieldTexts)

end LogRecord

namespace LoggingConfig

/-- Whether a log is also written to a file. -/
def writesFile (config : LoggingConfig) : Bool :=
  match config.logFile with
  | none => false
  | some path => path ≠ ""

/-- Whether records of a level are written. -/
def admits (config : LoggingConfig) (level : LogLevel) : Bool :=
  config.level.severity ≤ level.severity

/-- The body of the line of a record. -/
def body (config : LoggingConfig) (sent : SentRecord) : LogBody :=
  if sent.structured then
    match config.format with
    | .json => .fields (sent.record.mapping sent.logger)
    | .console => .line (sent.record.columns sent.logger)
  else .line sent.record.message

/-- The lines that a sink makes of records. -/
def lines (config : LoggingConfig) (records : List SentRecord) : List LogLine :=
  (records.filter fun sent => config.admits sent.record.level).map fun sent =>
    ⟨sent.record.head sent.logger, config.body sent⟩

/-! ## Small facts -/

/-- A sink admits its own level. -/
theorem admits_level (config : LoggingConfig) : config.admits config.level = true := by
  simp [admits]

@[simp] theorem lines_nil (config : LoggingConfig) : config.lines [] = [] := rfl

end LoggingConfig

end CommandHost
