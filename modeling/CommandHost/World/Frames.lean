import CommandHost.World.Basic

/-!
# Modules and frames

Modules are made and registered by name. At a frame, every registered module
lets its objects that listen to frames act, and publishes how many objects it
has in the store.
-/

namespace CommandHost.World

variable {V : Vocabulary}

/-- Makes a context with a hub of its own. -/
def freshContext (config : RuntimeConfig) (verbs : Verbs V.Verb) : Effect V Nat := do
  let world ← get
  set { world with
    hubs := world.hubs.push (.ofConfig config)
    contexts := world.contexts.push ⟨config.modules, world.hubs.size, verbs⟩ }
  return world.contexts.size

/-- Makes a context that shares the hub and the verbs of another one. -/
def sharedContext (config : RuntimeConfig) (other : Nat) : Effect V Nat := do
  let world ← get
  set { world with
    contexts := world.contexts.push { world.context other with config := config.modules } }
  return world.contexts.size

/-- Makes a module. Its name must not be blank. -/
def makeModule (kind : ModuleClass V) (name : String) (context : Nat) : Effect V Nat := do
  if Text.isBlankText name.toList then throw .emptyModuleName
  let world ← get
  set { world with modules := world.modules.push (.ofClass kind name context) }
  return world.modules.size

/-- Registers a module under its name, which must not be taken. -/
def registerModule (place : Nat) : Effect V Unit := do
  let world ← get
  let name := (world.moduleOf place).name
  if world.registered.has name then throw (.takenModule name)
  set { world with registered := world.registered.put name place }
  Effect.log (.plain .info ("Module " ++ name ++ " loaded"))

/-- Lets an object act at a frame, if it listens to frames. -/
def tick (host : Host V) (frame : Int) (handle : Nat) : Effect V Unit := do
  match ((← get).object handle).kind.ticker with
  | none => return
  | some ticker => host.ticker ticker handle frame

/-- Publishes how many objects a module has, under its name with a suffix. -/
def publishCount (place : Nat) : Effect V Unit := do
  let world ← get
  let found := world.moduleOf place
  let context := world.context found.context
  let key := found.name ++ context.config.countSuffix
  Effect.updateStore context.hub fun store => store.set (.text key) (.int found.registry.count)

/-- Lets the objects of a module act at a frame, and publishes their number. -/
def frameIn (host : Host V) (place : Nat) (frame : Int) : Effect V Unit := do
  ((← get).moduleOf place).registry.frameListeners.values.forM (tick host frame)
  publishCount place

/-- Runs a frame: the given one, or else the next one. -/
def runFrame (host : Host V) (number : Option Int) : Effect V Int := do
  let frame := number.getD ((← get).frame + 1)
  modify fun world => { world with frame }
  (← get).registered.values.forM fun place => frameIn host place frame
  return frame

end CommandHost.World
