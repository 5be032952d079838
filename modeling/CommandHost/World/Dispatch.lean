import CommandHost.World.Commands
import CommandHost.World.Creation

/-!
# Dispatch

A command is routed to the module that it names, and there to one of the
module's operations or to an object. Command texts are read first: a text for
the program names its module, a text for a module need not.
-/

namespace CommandHost.World

variable {V : Vocabulary}

/-- Adds an operation to a module under a name, or replaces the one that has the name. -/
def registerOperation (place : Nat) (name : String) (operation : Operation V) : Effect V Unit :=
  Effect.updateModule place fun found =>
    { found with operations := found.operations.register name operation }

/-- The topic that a command for help names. -/
def topicOf (command : Command) : Except IllegalUse (Option String) := do
  let topic ←
    Arguments.getText (.command command) [.text "_op", .text "_command"] (.text "")
  return if topic.truthy then some topic.print else none

/-- Runs an operation of a module. -/
def operate (host : Host V) (place : Nat) (operation : Operation V) (command : Command) :
    Effect V Reply := do
  match operation with
  | .help =>
    let topic ← Effect.ofUse (topicOf command)
    return .value (.map (((← get).moduleOf place).helpPage topic))
  | .info =>
    let found := (← get).moduleOf place
    Effect.log (.plain .info ("module info: " ++ found.name))
    return .value (.map found.summary)
  | .custom handler => host.handler handler place command

/-- The object of an id that a command names. -/
def targetOf (found : Module V) (target : Value) : Except Fault Nat :=
  match target with
  | .text id =>
    match found.registry.get? id with
    | some handle => .ok handle
    | none => .error (.unknownObject found.name target)
  | .atom _ =>
    match target.toText with
    | .ok _ => .error (.unknownObject found.name target)
    | .error cause => .error (.illegal cause)
  | _ => .error (.illegal (.unhashable target.kindName))

/-- Executes a command on a module. -/
def executeIn (host : Host V) (place : Nat) (command : Command) : Effect V Reply := do
  let found := (← get).moduleOf place
  if command.op = "" then throw (.missingOperation found.name)
  match command.target.filter Value.truthy with
  | some target =>
    let handle ← MonadExcept.ofExcept (targetOf found target)
    executeOn host handle command
  | none =>
    match found.operations.find? command.op with
    | none => throw (.unknownOperation found.name command.op)
    | some operation => operate host place operation command

/-- Executes a value on a module: a mapping is read as a command, and any other value
names no operation. -/
def executeValueIn (host : Host V) (place : Nat) (value : Value) : Effect V Reply := do
  match value with
  | .map entries => executeIn host place (← Effect.ofUse (Command.ofWire entries))
  | _ => throw (.missingOperation ((← get).moduleOf place).name)

/-- The text that a module reads: without blanks at its ends, and with the name of the
module in front unless that is its first word. -/
def addressed (name text : String) : String :=
  let bare := Text.stripString text
  if (Text.words bare.toList).head? = some name.toList then bare else name ++ " " ++ bare

/-- Reads a command text in one of the two dialects. -/
def readCommand (settings : ReaderSettings) (rich : Bool) (text : String) :
    Except Fault Command :=
  if rich then (RichDialect.read settings (some text) none).mapError .command
  else (SimpleDialect.read (some text) none).mapError fun cause => .command (.parse cause)

/-- Runs a command text on a module. -/
def runIn (host : Host V) (place : Nat) (text : Option String) (rich : Bool) :
    Effect V Reply := do
  let world ← get
  let found := world.moduleOf place
  let text := text.getD ""
  if Text.isBlankText text.toList then
    throw (.blankCommand (.ofTexts [("module", .text found.name)]))
  let settings := (world.hub (world.hubOf place)).settings
  executeIn host place
    (← MonadExcept.ofExcept (readCommand settings rich (addressed found.name text)))

/-- Executes a command. -/
def execute (host : Host V) (command : Command) : Effect V Reply := do
  match (← get).registered.get? command.moduleName with
  | none => throw (.unknownModule command.moduleName)
  | some place => executeIn host place command

/-- Executes a value that is read as a command. -/
def executeValue (host : Host V) (value : Value) : Effect V Reply := do
  execute host (← commandOf "module" value)

/-- Runs a command text. -/
def run (host : Host V) (text : Option String) : Effect V Reply := do
  if Text.isBlankText (text.getD "").toList then
    throw (.blankCommand (.ofTexts [("text", .optionalText text)]))
  let world ← get
  let settings := (world.hub world.mainHub).settings
  let command ← MonadExcept.ofExcept (readCommand settings true (text.getD ""))
  Effect.log (.plain .debug ("Running command: " ++ command.moduleName ++ " " ++ command.op))
  execute host command

end CommandHost.World
