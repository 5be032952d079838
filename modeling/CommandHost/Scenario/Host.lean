import CommandHost.Scenario.Perform

/-!
# The host of a scenario

What the samples do, and running a scenario. A script that performs steps may
set off further scripts; each one counts its calls, so that the nesting ends
after as many scripts as may perform steps at all.
-/

namespace CommandHost.Scenario

open World

/-- What the parameters of a command are as a list of pairs. -/
def pairsOf (command : Command) : Value :=
  .list (command.params.map fun (key, value) => .list [.atom key, value])

/-- The descriptor of the box that a command describes. -/
def boxOf (command : Command) : Entries :=
  let keys := DescriptorKeys.standard
  let id := command.param 1 "id" .null
  let color := command.param 2 "color" .null
  let start : Entries := .ofTexts [(keys.type, .text "box")]
  let named := if id.truthy then start.set keys.id id else start
  if color.truthy then named.set "color" color else named

/-- What an operation does that a scenario registered. -/
def follow (script : OperationScript) (command : Command) : Act Reply := do
  match script with
  | .give value => return .value (← filled value)
  | .fail => throw (.failed "driver: handler failed")
  | .giveCommand => return .command command

/-- The value that an object has under a key. -/
def dataOf (object : RuntimeObject vocabulary) (key : String) : Act Value :=
  match object.data.get? key with
  | some value => pure value
  | none => missing key

/-- Removes the object that a killer names from the module that it names. -/
def removeNamed (object : RuntimeObject vocabulary) : Act Unit := do
  let moduleName ← dataOf object "module"
  let id ← dataOf object "kill"
  match moduleName with
  | .text name =>
    let place ← placeOf name
    match ← Effect.ofUse id.toKey with
    | .text id => remove place id
    | _ => return
  | other =>
    let _ ← Effect.ofUse other.toKey
    throw (.illegal (.missingKey other))

/-- What an object does at a frame. -/
def actAtFrame (ticker : SampleTicker) (handle : Nat) (frame : Int) : Act Unit := do
  let object := (← get).object handle
  match ticker with
  | .notes => Effect.note (.ticked object.id frame)
  | .fails => throw (.failed "driver: bad tick")
  | .removes =>
    Effect.note (.ticked object.id frame)
    removeNamed object

/-- What an object does when it has been created. -/
def actWhenCreated (hook : SampleHook) (handle : Nat) : Act Unit := do
  let world ← get
  let object := world.object handle
  match hook with
  | .fails => throw (.failed "driver: fragile")
  | .listens =>
    Effect.note (.created object.id (idsOf world object.children))
    let _ ← World.listenAs handle "greet" (.greeter object.id) false

/-- What a verb does. -/
def actOnVerb (verb : SampleVerb) (command : Command) (handle : Nat) : Act Reply := do
  let id := ((← get).object handle).id
  match verb with
  | .spin => reply (.text (id ++ " spins"))
  | .whirl => reply (.map (Entries.ofTexts [("id", .text id), ("params", .map command.params)]))
  | .quiet => reply (.text "quiet")
  | .told verb => reply (textList [verb, id])

/-- Counts a call of a script and tells how many there were before. -/
def countCall (name : String) : Act Nat := do
  let world ← get
  let before := (world.memory.calls.get? name).getD 0
  let calls := world.memory.calls.put name (before + 1)
  set { world with memory := { world.memory with calls } }
  return before

/-- Performs steps one after the other and notes down their results. -/
def performAll (host : Host vocabulary) (steps : List Step) : Act Unit :=
  steps.forM fun step => do
    let result ← perform host step
    Effect.note (.performed step.word result)

/-- What a callback does; `inner` is the host for the steps that it performs. -/
def actOnPayload (inner : Host vocabulary) (callback : SampleCallback) (payload : Value) :
    Act Unit := do
  match callback with
  | .greeter objectId => Effect.note (.called objectId payload)
  | .script (.record name) => Effect.note (.called name payload)
  | .script (.fail name) =>
    Effect.note (.called name payload)
    throw (.failed ("driver: " ++ name ++ " failed"))
  | .script (.perform name steps limit) =>
    Effect.note (.called name payload)
    let before ← countCall name
    if before < limit then performAll inner steps

/-- What an operation of the samples does. -/
def actOnCommand (inner : Host vocabulary) (handler : SampleHandler) (place : Nat)
    (command : Command) : Act Reply := do
  match handler with
  | .createBox =>
    let created ← create inner place (.map (boxOf command))
    reply ((← get).objectValue created)
  | .echo => reply (pairsOf command)
  | .echoDerived => reply (textList ["derived", command.op])
  | .spacedInfo => reply (.text "in fo")
  | .infoDerived => reply (.text "derived info")
  | .script content => follow content command

/-- A host whose code fails, as it does when scripts are nested too deep. -/
def exhausted : Host vocabulary where
  callback _ _ := throw (.illegal .tooDeep)
  handler _ _ _ := throw (.illegal .tooDeep)
  verb _ _ _ := throw (.illegal .tooDeep)
  ticker _ _ _ := throw (.illegal .tooDeep)
  hook _ _ := throw (.illegal .tooDeep)

/-- The host of a scenario in which scripts are nested up to a depth. -/
def hostWithin : Nat → Host vocabulary
  | 0 => exhausted
  | depth + 1 =>
    let inner := hostWithin depth
    { callback := actOnPayload inner
      handler := actOnCommand inner
      verb := actOnVerb
      ticker := actAtFrame
      hook := actWhenCreated }

/-- The host of a scenario. -/
def hostOf (steps : List Step) : Host vocabulary := hostWithin (runsOfAll steps + 2)

/-- The world in which a scenario starts. -/
def startWorld (config : RuntimeConfig) (withoutVerbs : Bool) : World vocabulary :=
  .start config (if withoutVerbs then [] else Verbs.builtin) .empty

end CommandHost.Scenario
