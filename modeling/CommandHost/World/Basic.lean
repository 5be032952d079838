import CommandHost.Config.Model
import CommandHost.Error.Fault
import CommandHost.Event.Bus
import CommandHost.Log.Record
import CommandHost.Markup.Mapping
import CommandHost.Module.Basic
import CommandHost.Store

/-!
# The world

A `World` is the whole state of a running program: its objects, modules and
contexts, the hubs that contexts share, the modules that are registered, the
number of the last frame, and a journal of what was logged and noted. Objects,
hubs, contexts and modules are given by their places, which never change. An
`Effect` is a step of the program: it changes the world and gives a value or
fails, and what it changed before it failed stays.
-/

namespace CommandHost

variable {V : Vocabulary}

/-- What contexts can share: an event bus, a store, the settings of the command
reader, and the mapping of markup. -/
structure Hub (V : Vocabulary) where
  bus : Bus V.Callback
  busConfig : BusConfig
  store : Store
  settings : ReaderSettings
  mapping : MarkupMapping

instance : Inhabited (Hub V) := ⟨⟨.empty, .standard, .empty, .standard, .standard⟩⟩

/-- The hub of a configuration. -/
def Hub.ofConfig (config : RuntimeConfig) : Hub V :=
  ⟨.empty, config.bus, .empty, config.parser, .standard⟩

/-- What a module is given: a configuration, a hub, and the verbs of its objects. -/
structure Context (V : Vocabulary) where
  config : ModuleConfig
  hub : Nat
  verbs : Verbs V.Verb

instance : Inhabited (Context V) := ⟨⟨.standard, 0, []⟩⟩

/-- One line of the journal: a log record, or a note of the host. -/
inductive Entry (V : Vocabulary) where
  | log (record : LogRecord)
  | note (content : V.Note)

/-- The state of a running program. -/
structure World (V : Vocabulary) where
  objects : Array (RuntimeObject V)
  hubs : Array (Hub V)
  contexts : Array (Context V)
  modules : Array (Module V)
  /-- The registered modules by name. -/
  registered : Table Nat
  frame : Int
  /-- How many ids have been given to objects. -/
  objectIds : Nat
  /-- How many ids have been given to listeners. -/
  listenerIds : Nat
  journal : Array (Entry V)
  /-- What the host remembers. -/
  memory : V.Memory

namespace World

/-- The place of the first context, which is that of the program itself. -/
def mainContext : Nat := 0

/-- The world at the start, with one context. -/
def start (config : RuntimeConfig) (verbs : Verbs V.Verb) (memory : V.Memory) : World V where
  objects := #[]
  hubs := #[.ofConfig config]
  contexts := #[⟨config.modules, 0, verbs⟩]
  modules := #[]
  registered := []
  frame := 0
  objectIds := 0
  listenerIds := 0
  journal := #[]
  memory := memory

/-- The object of a place. -/
def object (world : World V) (handle : Nat) : RuntimeObject V := world.objects.getD handle default

/-- The hub of a place. -/
def hub (world : World V) (place : Nat) : Hub V := world.hubs.getD place default

/-- The context of a place. -/
def context (world : World V) (place : Nat) : Context V := world.contexts.getD place default

/-- The module of a place. -/
def moduleOf (world : World V) (place : Nat) : Module V := world.modules.getD place default

/-- The hub of a module. -/
def hubOf (world : World V) (place : Nat) : Nat :=
  (world.context (world.moduleOf place).context).hub

/-- The hub of the program itself. -/
def mainHub (world : World V) : Nat := (world.context mainContext).hub

/-- An object as a value. -/
def objectValue (world : World V) (handle : Nat) : Value :=
  .object ⟨handle, (world.object handle).label⟩

end World

/-- A step of the program. -/
abbrev Effect (V : Vocabulary) (α : Type) := EStateM Fault (World V) α

/-- What a command gives: a value, or a command. -/
inductive Reply where
  | value (content : Value)
  | command (content : Command)

/-- The reply without content. -/
def Reply.null : Reply := .value .null

instance : Inhabited Reply := ⟨.null⟩

/-- What the code of a host does. -/
structure Host (V : Vocabulary) where
  /-- What a callback does with a payload. -/
  callback : V.Callback → Value → Effect V Unit
  /-- What a handler of a module, given by its place, does with a command. -/
  handler : V.Handler → Nat → Command → Effect V Reply
  /-- What a verb does with a command for an object. -/
  verb : V.Verb → Command → Nat → Effect V Reply
  /-- What an object does at a frame. -/
  ticker : V.Ticker → Nat → Int → Effect V Unit
  /-- What an object does when it has been created. -/
  hook : V.Hook → Nat → Effect V Unit

namespace Effect

/-- A step that may be an illegal use. -/
def ofUse {α : Type} : Except IllegalUse α → Effect V α
  | .ok value => pure value
  | .error cause => throw (.illegal cause)

/-- Writes a log record into the journal. -/
def log (record : LogRecord) : Effect V Unit :=
  modify fun world => { world with journal := world.journal.push (.log record) }

/-- Writes a note of the host into the journal. -/
def note (content : V.Note) : Effect V Unit :=
  modify fun world => { world with journal := world.journal.push (.note content) }

/-- Changes an object. -/
def updateObject (handle : Nat) (change : RuntimeObject V → RuntimeObject V) : Effect V Unit :=
  modify fun world => { world with objects := world.objects.modify handle change }

/-- Changes a hub. -/
def updateHub (place : Nat) (change : Hub V → Hub V) : Effect V Unit :=
  modify fun world => { world with hubs := world.hubs.modify place change }

/-- Changes the bus of a hub. -/
def updateBus (place : Nat) (change : Bus V.Callback → Bus V.Callback) : Effect V Unit :=
  updateHub place fun hub => { hub with bus := change hub.bus }

/-- Changes the store of a hub. -/
def updateStore (place : Nat) (change : Store → Store) : Effect V Unit :=
  updateHub place fun hub => { hub with store := change hub.store }

/-- Changes a module. -/
def updateModule (place : Nat) (change : Module V → Module V) : Effect V Unit :=
  modify fun world => { world with modules := world.modules.modify place change }

/-- Changes the registry of a module. -/
def updateRegistry (place : Nat) (change : Registry → Registry) : Effect V Unit :=
  updateModule place fun found => { found with registry := change found.registry }

end Effect

end CommandHost
