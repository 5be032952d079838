import CommandHost.Command.Rich
import CommandHost.Config.Problem
import CommandHost.Markup.Descriptor

/-!
# What can go wrong while the program runs

A `Fault` is the cause for which a step of the program fails. Most causes carry
a report, the others are illegal uses, refused settings, or failures of the code
that a host brings along. A cause has a class and a text, which is what a log
record shows of it. A text that holds a value can be as impossible to write as the
value is, and a failure of a host may have no text at all.
-/

namespace CommandHost

/-- The causes for which a step of the program fails. -/
inductive Fault where
  /-- A command text that cannot be read. -/
  | command (cause : RichFault)
  /-- A command text without a word; the details say where it was given. -/
  | blankCommand (details : Entries)
  /-- Markup that has no descriptor. -/
  | markup (cause : MarkupFault)
  /-- A refused setting of the command reader. -/
  | setting (cause : SettingFault)
  /-- A mapping that is no configuration of a class. -/
  | invalid (className : String) (problems : List Problem)
  /-- A command for a module that names no operation. -/
  | missingOperation (moduleName : String)
  /-- A command for a module that is not registered. -/
  | unknownModule (moduleName : String)
  /-- A command for an object that its module does not have. -/
  | unknownObject (moduleName : String) (objectId : Value)
  /-- A command for an operation that its module does not have. -/
  | unknownOperation (moduleName op : String)
  /-- A command for a verb that its object does not understand. -/
  | unknownVerb (objectId verb moduleName : String)
  /-- A descriptor with a type that its module does not know. -/
  | unknownType (moduleName : String) (objectType : Value)
  /-- A module whose name is registered already. -/
  | takenModule (moduleName : String)
  /-- A module without a name. -/
  | emptyModuleName
  /-- A built-in verb that is registered already. -/
  | takenVerb (verb : String)
  /-- A failure of the code that the host brings along. -/
  | failed (message : String)
  /-- A failure of that code, of a class of its own, without a text: writing it fails for
  another cause. -/
  | untold (className : String) (cause : Fault)
  /-- An illegal use of a value. -/
  | illegal (cause : IllegalUse)

namespace Fault

/-- The report of a cause, if it has one. -/
def report? : Fault → Option Report
  | command (.parse cause) => some cause.report
  | blankCommand details => some (.parsing "Unable to parse command" details)
  | markup (.malformed cause) => (MarkupFault.malformed cause).report?.toOption
  | missingOperation moduleName =>
    some (.invalidCommand ("Invalid command: missing op (module: " ++ moduleName ++ ")") moduleName)
  | unknownModule moduleName => some (.unknownModule (.text moduleName))
  | unknownObject moduleName objectId => some (.objectNotFound (.text moduleName) objectId)
  | unknownOperation moduleName op => some (.operationNotFound (.text moduleName) (.text op))
  | unknownVerb objectId verb moduleName =>
    some (.unknownNanoCommand (.text objectId) (.text verb)
      (if moduleName = "" then .null else .text moduleName))
  | unknownType moduleName objectType =>
    some (.objectCreation
      ("Xpell object '" ++ objectType.print ++ "' not found (module: " ++ moduleName ++ ")")
      objectType (.ofTexts [("module", .text moduleName)]))
  | takenModule moduleName =>
    some (.configuration ("Module '" ++ moduleName ++ "' is already registered")
      (.ofTexts [("module", .text moduleName)]))
  | _ => none

/-- The message of a cause that has one of its own but no report. -/
def message? : Fault → Option String
  | setting cause => some cause.message
  | emptyModuleName => some "Module name must not be empty."
  | takenVerb verb => some ("Nano command '" ++ verb ++ "' is already registered.")
  | failed message => some message
  | _ => none

/-- The illegal use that a cause is, if it is one. -/
def illegal? : Fault → Option IllegalUse
  | command (.template cause) | markup (.illegal cause) | illegal cause => some cause
  | _ => none

/-- The text of a list of problems with a configuration. -/
def problemText (className : String) (problems : List Problem) : String :=
  let line (problem : Problem) : String :=
    "\n" ++ ".".intercalate problem.path ++ "\n  " ++ problem.kind.message
  intText problems.length ++ " validation error" ++ (if problems.length = 1 then "" else "s") ++
    " for " ++ className ++ String.join (problems.map line)

/-- The class of a cause. -/
def className (fault : Fault) : String :=
  match fault.report?, fault.illegal? with
  | some report, _ => report.kind.name
  | none, some cause => cause.className
  | none, none =>
    match fault with
    | setting cause => cause.className
    | invalid _ _ => "ValidationError"
    | failed _ => "RuntimeError"
    | untold name _ => name
    | _ => "ValueError"

/-- The text of a cause, or the cause for which it cannot be written. -/
def toText (fault : Fault) : Except Fault String :=
  match fault.report?, fault.illegal?, fault with
  | some report, _, _ => report.toText.mapError illegal
  | none, some cause, _ => cause.toText.mapError illegal
  | none, none, invalid className problems => .ok (problemText className problems)
  | none, none, untold _ cause => .error cause
  | none, none, fault => .ok (fault.message?.getD "")

end Fault

end CommandHost
