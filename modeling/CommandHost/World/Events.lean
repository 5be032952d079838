import CommandHost.World.Basic

/-!
# Events

Registering and releasing listeners on the bus of a hub, and delivering a
payload. A delivery reaches the listeners that the event has when it starts,
whatever they do to the bus meanwhile. A listener that fails is logged and the
delivery goes on, unless the failure cannot be told: then the delivery fails
itself. Listeners for one delivery are released when it is over.
-/

namespace CommandHost.World

variable {V : Vocabulary}

/-- The id of the listener that is registered as the one of a number. -/
def listenerId (number : Nat) : String := "listener-" ++ intText number

/-- Registers a listener and gives its id. -/
def listen (hub : Nat) (event : String) (callback : V.Callback) (options : ListenerOptions) :
    Effect V String := do
  let world ← get
  let id := listenerId (world.listenerIds + 1)
  set { world with listenerIds := world.listenerIds + 1 }
  Effect.updateBus hub fun bus => bus.register (.make id event callback options .null)
  if (world.hub hub).busConfig.logRegister then
    Effect.log ⟨.debug, "event listener registered",
      .ofTexts [("event_name", .text event), ("listener_id", .text id)]⟩
  return id

/-- Releases the listener of an id. -/
def release (hub : Nat) (id : String) : Effect V Unit := do
  let found := (← get).hub hub
  match found.bus.index.get? id with
  | none => return
  | some event =>
    Effect.updateBus hub fun bus => bus.remove id
    if found.busConfig.logRemove then
      Effect.log ⟨.debug, "event listener removed",
        .ofTexts [("event_name", .text event), ("listener_id", .text id)]⟩

/-- Releases listeners one after the other. -/
def releaseAll (hub : Nat) (ids : List String) : Effect V Unit := ids.forM (release hub)

/-- Releases the listeners of an owner. -/
def releaseOwner (hub : Nat) (owner : Value) : Effect V Unit := do
  let found := (← get).hub hub
  releaseAll hub (found.bus.ownedIds owner)

/-- Drops all listeners. -/
def dropListeners (hub : Nat) : Effect V Unit := Effect.updateBus hub fun _ => .empty

/-- The log record of a listener that failed with a text. -/
def failureRecord (event : String) (listener : Listener V.Callback) (fault : Fault)
    (text : String) : LogRecord :=
  ⟨.error, "event listener failed",
    .ofTexts
      [("event_name", .text event), ("listener_id", .text listener.id), ("tag", listener.tag),
        ("error", .text text), ("error_type", .text fault.className)]⟩

/-- Logs that a listener failed. -/
def logFailure (event : String) (listener : Listener V.Callback) (fault : Fault) :
    Effect V Unit := do
  let text ← MonadExcept.ofExcept fault.toText
  Effect.log (failureRecord event listener fault text)

/-- Gives a payload to listeners, one after the other; a failure is logged. -/
def deliver (host : Host V) (event : String) (payload : Value) :
    List (Listener V.Callback) → Effect V Unit
  | [] => pure ()
  | listener :: rest => do
    try host.callback listener.callback payload
    catch fault => logFailure event listener fault
    deliver host event payload rest

/-- Fires an event: the listeners that it has now get the payload, and those of them
that are for one delivery are released. -/
def fire (host : Host V) (hub : Nat) (event : String) (payload : Value) : Effect V Unit := do
  let found := (← get).hub hub
  let listeners := found.bus.listenersOf event
  if listeners.isEmpty then return
  if found.busConfig.logFire then
    Effect.log ⟨.debug, "event fired",
      .ofTexts [("event_name", .text event), ("payload", payload)]⟩
  deliver host event payload listeners
  releaseAll hub ((listeners.filter Listener.once).map Listener.id)

end CommandHost.World
