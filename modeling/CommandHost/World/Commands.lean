import CommandHost.Command.Arguments
import CommandHost.World.Tree

/-!
# Commands for objects

A command that is addressed to an object runs one of the verbs that the object
understands, and nothing else.
-/

namespace CommandHost.World

variable {V : Vocabulary}

/-- A value as a command: a mapping is read, any other value lacks what is
asked for first. -/
def commandOf (asked : String) (value : Value) : Effect V Command :=
  match value with
  | .map entries => Effect.ofUse (Command.ofWire entries)
  | _ => throw (.illegal (.missingAttribute value.kindName asked))

/-- The event and the payload that the parameters of a command name: the first two
parameters given by position, or else the named ones. -/
def eventOf (params : Entries) : Option (Value × Value) :=
  if (params.getOrNull "1").truthy then some (params.getOrNull "1", params.getOrNull "2")
  else if (params.getOrNull "event").truthy then
    some (params.getOrNull "event", params.getOrNull "data")
  else none

/-- Tells the id of an object. -/
def tellId (handle : Nat) : Effect V Reply := do
  let id := ((← get).object handle).id
  Effect.log (.plain .info ("XObject id " ++ id))
  return .value (.text id)

/-- Logs the first parameter given by position, or else the object. -/
def logParam (command : Command) (handle : Nat) : Effect V Reply := do
  let value := command.params.getOrNull "1"
  let object := (← get).object handle
  let text ← if value.truthy then Effect.ofUse value.toText else pure object.label
  Effect.log (.plain .info text)
  return .null

/-- Fires the event that a command names on the bus of an object. -/
def fireFrom (host : Host V) (command : Command) (handle : Nat) : Effect V Reply := do
  match eventOf command.params with
  | none => return .null
  | some (event, payload) =>
    let object := (← get).object handle
    match object.hub with
    | none =>
      Effect.log ⟨.warning, "fire nano command ignored: object has no event bus",
        .ofTexts [("object_id", .text object.id), ("event_name", event)]⟩
      return .null
    | some hub =>
      fire host hub (← Effect.ofUse event.toText) payload
      return .null

/-- Runs a nano command for an object. -/
def runNano (host : Host V) (nano : NanoCommand V.Verb) (command : Command) (handle : Nat) :
    Effect V Reply :=
  match nano with
  | .info => tellId handle
  | .log => logParam command handle
  | .fire => fireFrom host command handle
  | .custom verb => host.verb verb command handle

/-- Runs the verb that a command names. -/
def executeOn (host : Host V) (handle : Nat) (command : Command) : Effect V Reply := do
  let object := (← get).object handle
  match object.verbs.get? command.op with
  | none => throw (.unknownVerb object.id command.op command.moduleName)
  | some nano => runNano host nano command handle

end CommandHost.World
