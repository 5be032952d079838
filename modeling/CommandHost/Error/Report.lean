import CommandHost.Error.IllegalUse

/-!
# Error reports

Every error that the program raises on its own account belongs to one of the
classes of `ErrorClass` and carries a `Report`: a message, a machine-readable
code, a level of severity, details, and attributes of its own.
-/

namespace CommandHost

/-- The classes of errors that carry a report. -/
inductive ErrorClass where
  | general
  | parsing
  | configuration
  | invalidCommand
  | resolution
  | objectNotFound
  | operationNotFound
  | unknownModule
  | unknownNanoCommand
  | objectCreation
  deriving DecidableEq, Repr

namespace ErrorClass

/-- The name of a class. -/
def name : ErrorClass → String
  | general => "XpellError"
  | parsing => "ParsingError"
  | configuration => "ConfigurationError"
  | invalidCommand => "InvalidCommandError"
  | resolution => "ResolutionError"
  | objectNotFound => "ObjectNotFoundError"
  | operationNotFound => "OperationNotFoundError"
  | unknownModule => "UnknownModuleError"
  | unknownNanoCommand => "UnknownNanoCommandError"
  | objectCreation => "ObjectCreationError"

/-- All classes. -/
def all : List ErrorClass :=
  [general, parsing, configuration, invalidCommand, resolution, objectNotFound, operationNotFound,
    unknownModule, unknownNanoCommand, objectCreation]

/-- The class of a name. -/
def ofName? (name : String) : Option ErrorClass := all.find? fun kind => kind.name == name

/-- The classes that a class refines, the nearest first. -/
def bases : ErrorClass → List ErrorClass
  | general => []
  | objectNotFound | operationNotFound | unknownModule | unknownNanoCommand => [resolution, general]
  | _ => [general]

/-- The code that errors of a class carry unless another one is given. -/
def code : ErrorClass → String
  | general => "xpell_error"
  | parsing => "parsing_error"
  | configuration => "configuration_error"
  | invalidCommand => "invalid_command"
  | resolution => "resolution_error"
  | objectNotFound => "object_not_found"
  | operationNotFound => "operation_not_found"
  | unknownModule => "unknown_module"
  | unknownNanoCommand => "unknown_nano_command"
  | objectCreation => "object_creation_error"

end ErrorClass

/-- What an error tells about itself. -/
structure Report where
  kind : ErrorClass
  message : Value
  code : Value
  level : Value
  details : Value
  /-- The attributes that the class adds. -/
  attributes : Entries
  /-- What the error prints. -/
  arguments : List Value

/-- The text of an error that was given arguments. -/
def printArguments : List Value → String
  | [] => ""
  | [argument] => argument.print
  | arguments => "(" ++ ", ".intercalate (Value.literals arguments) ++ ")"

namespace Report

/-- The level of severity unless another one is given. -/
def defaultLevel : String := "error"

/-- A report with a text as its message and the code of its class. -/
def plain (kind : ErrorClass) (message : String) (details attributes : Entries) : Report :=
  { kind
    message := .text message
    code := .text kind.code
    level := .text defaultLevel
    details := .map details
    attributes
    arguments := [.text message] }

/-- The text of an error. -/
def print (report : Report) : String := printArguments report.arguments

/-- The text of an error, if its arguments can be written out. -/
def toText (report : Report) : Except IllegalUse String :=
  let obstacle? :=
    match report.arguments with
    | [argument] => argument.obstacle? nestingLimit
    | arguments => (Value.list arguments).obstacle? nestingLimit
  match obstacle? with
  | none => .ok report.print
  | some cause => .error cause

/-! ## The reports of the single classes -/

/-- A command or markup text that cannot be read. -/
def parsing (message : String) (details : Entries) : Report := plain .parsing message details []

/-- A configuration that cannot be used. -/
def configuration (message : String) (details : Entries) : Report :=
  plain .configuration message details []

/-- A module that has no object of this id. -/
def objectNotFound (moduleName objectId : Value) : Report :=
  plain .objectNotFound
    ("Module '" ++ moduleName.print ++ "' cant find object id: " ++ objectId.print)
    (.ofTexts [("module", moduleName), ("object_id", objectId)])
    (.ofTexts [("module_name", moduleName), ("object_id", objectId)])

/-- A module that has no operation of this name. -/
def operationNotFound (moduleName op : Value) : Report :=
  plain .operationNotFound ("Module '" ++ moduleName.print ++ "' cant find op: " ++ op.print)
    (.ofTexts [("module", moduleName), ("op", op)])
    (.ofTexts [("module_name", moduleName), ("op", op)])

/-- A module that is not registered. -/
def unknownModule (moduleName : Value) : Report :=
  plain .unknownModule ("Module '" ++ moduleName.print ++ "' is not registered")
    (.ofTexts [("module", moduleName)])
    (.ofTexts [("module_name", moduleName)])

/-- A verb that an object does not understand. -/
def unknownNanoCommand (objectId verb moduleName : Value) : Report :=
  let place :=
    if moduleName.truthy then
      "Module '" ++ moduleName.print ++ "' object '" ++ objectId.print ++ "'"
    else "Object '" ++ objectId.print ++ "'"
  plain .unknownNanoCommand (place ++ " has no nano command: " ++ verb.print)
    (.ofTexts [("module", moduleName), ("object_id", objectId), ("op", verb)])
    (.ofTexts [("object_id", objectId), ("verb", verb)])

/-- Details that name something unless they name it already or there is nothing to
name. -/
def naming (key : String) (value : Value) (details : Entries) : Entries :=
  if value.truthy && !details.has (.text key) then details.set key value else details

/-- A command that cannot be dispatched as it is. -/
def invalidCommand (message : String) (moduleName : String) : Report :=
  plain .invalidCommand message (naming "module" (.text moduleName) [])
    (.ofTexts [("module_name", .text moduleName)])

/-- An object that cannot be created. -/
def objectCreation (message : String) (objectType : Value) (details : Entries) : Report :=
  plain .objectCreation message (naming "object_type" objectType details) []

end Report

end CommandHost
