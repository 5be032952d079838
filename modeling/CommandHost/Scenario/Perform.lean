import CommandHost.Scenario.Samples
import CommandHost.World.Dispatch
import CommandHost.World.Frames

/-!
# Performing a step

Each step is one call of the program. Handles and module names that the scenario
does not have are missing keys.
-/

namespace CommandHost.Scenario

open World

/-- A step of the program in a scenario. -/
abbrev Act (α : Type) := Effect vocabulary α

/-! ## Handles and modules -/

/-- A missing key. -/
def missing {α : Type} (key : String) : Act α := throw (.illegal (.missingKey (.text key)))

/-- What a handle holds. -/
def held (handle : String) : Act (Option Nat) := do
  match (← get).memory.handles.get? handle with
  | some found => return found
  | none => missing handle

/-- The object that a handle holds; `asked` is what is asked of it. -/
def objectOf (handle asked : String) : Act Nat := do
  match ← held handle with
  | some found => return found
  | none => throw (.illegal (.missingAttribute Value.null.kindName asked))

/-- The module of a name. -/
def placeOf (name : String) : Act Nat := do
  match (← get).memory.modules.get? name with
  | some place => return place
  | none => missing name

/-- Keeps an object, or none, under a handle. -/
def hold (handle : String) (found : Option Nat) : Act Unit :=
  modify fun world =>
    { world with memory := { world.memory with handles := world.memory.handles.put handle found } }

/-- The key by which values refer to handles. -/
def referenceKey : String := "$obj"

mutual

/-- A value with the objects that it refers to in their places, or the handle that is
missing. -/
def fill (world : World vocabulary) : Value → Except String Value
  | .atom content => .ok (.atom content)
  | .list items => (fillItems world items).map .list
  | .map entries =>
    match entries with
    | [(.text key, .text handle)] =>
      if key = referenceKey then
        match world.memory.handles.get? handle with
        | some (some found) => .ok (world.objectValue found)
        | some none => .ok .null
        | none => .error handle
      else .ok (.map entries)
    | _ => (fillEntries world entries).map .map

/-- The items of a list with the objects that they refer to. -/
def fillItems (world : World vocabulary) : List Value → Except String (List Value)
  | [] => .ok []
  | item :: rest => do
    let item ← fill world item
    let rest ← fillItems world rest
    return item :: rest

/-- The entries of a mapping with the objects that their values refer to. -/
def fillEntries (world : World vocabulary) : List (Atom × Value) → Except String Entries
  | [] => .ok []
  | (key, value) :: rest => do
    let value ← fill world value
    let rest ← fillEntries world rest
    return (key, value) :: rest

end

/-- A value with the objects that it refers to. -/
def filled (value : Value) : Act Value := do
  match fill (← get) value with
  | .ok value => return value
  | .error handle => missing handle

/-! ## Values that tell about the world -/

/-- Texts as a value. -/
def textList (texts : List String) : Value := .list (texts.map .text)

/-- An object, or null, as a value. -/
def objectOrNull (world : World vocabulary) : Option Nat → Value
  | some handle => world.objectValue handle
  | none => .null

/-- The ids of objects. -/
def idsOf (world : World vocabulary) (handles : List Nat) : List String :=
  handles.map fun handle => (world.object handle).id

/-- What there is to tell about an object. -/
def inspection (world : World vocabulary) (handle : Nat) : Value :=
  let object := world.object handle
  .list
    [world.objectValue handle, .text object.label, .bool object.disposed,
      .optionalText (object.parent.map fun parent => (world.object parent).id),
      textList (idsOf world object.children)]

/-- What there is to tell about verbs. -/
def verbSummary (verbs : Verbs SampleVerb) : Value :=
  .list [textList verbs.keys, .int verbs.length, .bool (verbs.has "info")]

/-! ## The groups of steps -/

/-- The reply of a step that gives a value. -/
def reply (value : Value) : Act Reply := return .value value

/-- The reply of a step that gives nothing. -/
def done (act : Act Unit) : Act Reply := do
  act
  return .null

/-- Makes a module, and registers it if that is asked for. The scenario has it only
if all went well. -/
def makeSample (name : String) (kind : SampleModule) (register : Bool) (context : ContextChoice)
    (config : Value) : Act Unit := do
  let contextPlace ←
    match context with
    | .main => pure mainContext
    | choice =>
      match RuntimeConfig.read ((← Effect.ofUse (config.orElse (.map [])).toEntries)) with
      | .error problems => throw (.invalid SectionNames.plain.whole problems)
      | .ok read =>
        if choice = .fresh then freshContext read Verbs.builtin
        else sharedContext read mainContext
  let place ← makeModule kind.toClass name contextPlace
  if register then registerModule place
  modify fun world =>
    { world with memory := { world.memory with modules := world.memory.modules.put name place } }

/-- Changes a setting of the command reader. -/
def setReader (hub : Nat) (setting : ReaderSetting) (value : Value) : Act Unit := do
  let settings := ((← get).hub hub).settings
  match settings.choose setting value with
  | .ok settings => Effect.updateHub hub fun found => { found with settings }
  | .error cause => throw (.setting cause)

/-- Lets the objects to come understand further verbs, each of which tells its name. -/
def extendVerbs (verbs : List String) : Act Unit :=
  let told : Verbs SampleVerb := verbs.map fun verb => (verb, .custom (.told verb))
  modify fun world => { world with
    contexts := world.contexts.modify mainContext fun context =>
      { context with verbs := context.verbs.extend told } }

/-- The verbs that would be built in if a command were registered under further
verbs. -/
def builtinWith (verbs : List String) : Except Fault (List String) :=
  match Verbs.builtin.register (.custom (SampleVerb.told "")) verbs with
  | (registered, none) => .ok registered.keys
  | (_, some verb) => .error (.takenVerb verb)

/-- Runs a verb of the program's context for an object. -/
def invokeVerb (host : Host vocabulary) (verb : String) (command : Value) (handle : String) :
    Act Reply := do
  let command ← commandOf "params" command
  let target ← objectOf handle "object_id"
  match ((← get).context mainContext).verbs.get? verb with
  | none => missing verb
  | some nano => runNano host nano command target

/-- The steps on the event bus. -/
def performEvent (host : Host vocabulary) (hub : Nat) : Step → Act Reply
  | .on event script options => do
    let owner ← filled options.owner
    let tag ← filled options.tag
    reply (.text (← listen hub event (.script script) ⟨options.once, owner, tag⟩))
  | .once event script owner => do
    reply (.text (← listen hub event (.script script) ⟨true, ← filled owner, .null⟩))
  | .fire event payload => do
    let payload ← filled payload
    done (fire host hub event payload)
  | .off id => done (release hub id)
  | .offOwner owner => do
    let owner ← filled owner
    done (releaseOwner hub owner)
  | .clearBus => done (dropListeners hub)
  | .hasListeners event => do reply (.bool (((← get).hub hub).bus.hasListeners event))
  | .countListeners (some event) => do reply (.int (((← get).hub hub).bus.countOf event))
  | .countListeners none => do reply (.int ((← get).hub hub).bus.count)
  | _ => return .null

/-- A value as a key of the store. -/
def keyOf (value : Value) : Act Atom := do Effect.ofUse (← filled value).toKey

/-- The steps on the store. -/
def performStore (hub : Nat) : Step → Act Reply
  | .store key value => do
    let value ← filled value
    let key ← keyOf key
    done (Effect.updateStore hub fun store => store.set key value)
  | .load key default => do
    let default ← filled default
    let key ← keyOf key
    reply (((← get).hub hub).store.get key default)
  | .pick key default => do
    let default ← filled default
    let key ← keyOf key
    let (value, rest) := ((← get).hub hub).store.pick key default
    Effect.updateStore hub fun _ => rest
    reply value
  | .has key => do
    let key ← keyOf key
    reply (.bool (((← get).hub hub).store.has key))
  | .delete key => do
    let key ← keyOf key
    done (Effect.updateStore hub fun store => store.delete key)
  | .contains key => do
    let key ← keyOf key
    let store := ((← get).hub hub).store
    reply (.list [.bool (store.has key), .int store.size])
  | .setVariable key value => do
    let value ← filled value
    let key ← keyOf key
    done (Effect.updateStore hub fun store => store.setVariable key value)
  | .clean => done (Effect.updateStore hub fun _ => .empty)
  | _ => return .null

/-- The steps on the context of the program. -/
def performContext (host : Host vocabulary) (hub : Nat) : Step → Act Reply
  | .setReader setting value => do
    let value ← filled value
    done (setReader hub setting value)
  | .mapElement tag objectType =>
    done (Effect.updateHub hub fun found =>
      { found with mapping := found.mapping.registerElement tag objectType })
  | .mapAttribute name key =>
    done (Effect.updateHub hub fun found =>
      { found with mapping := found.mapping.registerAttribute name key })
  | .listVerbs none => do reply (verbSummary ((← get).context mainContext).verbs)
  | .listVerbs (some handle) => do
    let found ← objectOf handle "nano_commands"
    reply (verbSummary ((← get).object found).verbs)
  | .extendVerbs verbs => done (extendVerbs verbs)
  | .registerVerbs verbs => do
    reply (textList (← MonadExcept.ofExcept (builtinWith verbs)))
  | .invokeVerb verb command handle => do
    let command ← filled command
    invokeVerb host verb command handle
  | _ => return .null

/-- The steps on the program. -/
def performProgram (host : Host vocabulary) : Step → Act Reply
  | .makeModule name kind register context config => do
    let config ← filled config
    done (makeSample name kind register context config)
  | .findModule name => do
    let registered := (← get).registered
    let found := if registered.has name then Value.text name else .null
    reply (.list [found, textList registered.keys])
  | .run text => run host text
  | .execute command => do
    let command ← filled command
    executeValue host command
  | .frame number => do reply (.int (← runFrame host number))
  | _ => return .null

/-- The steps on objects by handle. -/
def performObject (host : Host vocabulary) (hub : Nat) : Step → Act Reply
  | .build handle kind data withBus => do
    let data ← filled data
    let descriptor ← Effect.ofUse (data.orElse (.map [])).toEntries
    let built ← construct kind.toClass descriptor Verbs.builtin (if withBus then some hub else none)
    hold handle (some built)
    reply ((← get).objectValue built)
  | .keep handle moduleName id => do
    let place ← placeOf moduleName
    let found := ((← get).moduleOf place).registry.get? id
    hold handle found
    reply (objectOrNull (← get) found)
  | .inspect handle => do
    let found ← objectOf handle "object_id"
    reply (inspection (← get) found)
  | .dispose handle => do
    let found ← objectOf handle "dispose"
    done (World.dispose found)
  | .append handle child => do
    let parent ← objectOf handle "append"
    let child ← objectOf child "parent"
    done (World.append parent child)
  | .listenAs handle event script once => do
    let found ← objectOf handle "on"
    reply (.optionalText (← World.listenAs found event (.script script) once))
  | .executeOn handle command => do
    let command ← filled command
    let found ← objectOf handle "execute"
    World.executeOn host found (← commandOf "op" command)
  | _ => return .null

/-- The steps on modules by name. -/
def performModule (host : Host vocabulary) (place : Nat) : Step → Act Reply
  | .runIn _ text rich => World.runIn host place text rich
  | .executeIn _ command => do
    let command ← filled command
    executeValueIn host place command
  | .frameIn _ number => done (World.frameIn host place number)
  | .create _ data handle => do
    let data ← filled data
    let created ← World.create host place data
    match handle with
    | some handle => hold handle (some created)
    | none => pure ()
    reply ((← get).objectValue created)
  | .createMarkup _ text => do
    let created ← createFromMarkup host place text
    reply (objectOrNull (← get) created)
  | .remove _ id => done (World.remove place id)
  | .importClass _ objectType kind =>
    done (Effect.updateModule place fun found =>
      { found with classes := found.classes.put objectType kind.toClass })
  | .importPack _ pack =>
    done (Effect.updateModule place fun found => { found with
      classes := found.classes.putAll (pack.map fun (objectType, kind) =>
        (objectType, kind.toClass)) })
  | .registerOperation _ name script =>
    done (World.registerOperation place name (.custom (.script script)))
  | .listOperations _ names => do
    let found := (← get).moduleOf place
    reply (.list
      [found.operationNames,
        .list (names.map fun name => .bool (found.hasOperation name))])
  | .help _ topic => do reply (.map (((← get).moduleOf place).helpPage topic))
  | .hasClass _ objectType => do
    let found := ((← get).moduleOf place).classes.get? objectType
    reply (.list [.bool found.isSome, .optionalText (found.map ObjectClass.name)])
  | .addObject _ handle => do
    let found ← objectOf handle "object_id"
    done (World.addObject place found)
  | .removeObject _ id => done (Effect.updateRegistry place fun registry => registry.remove id)
  | .lookup _ id => do
    let world ← get
    let registry := (world.moduleOf place).registry
    reply (.list
      [.bool (registry.has id), objectOrNull world (registry.get? id), .int registry.count])
  | _ => return .null

/-- The module that a step names. -/
def moduleNameOf? : Step → Option String
  | .runIn name .. | .executeIn name .. | .frameIn name .. | .create name .. | .createMarkup name ..
  | .remove name .. | .importClass name .. | .importPack name .. | .registerOperation name ..
  | .listOperations name .. | .help name .. | .hasClass name .. | .addObject name ..
  | .removeObject name .. | .lookup name .. => some name
  | _ => none

/-- Performs a step; `host` says what the code does that the step may run. -/
def perform (host : Host vocabulary) (step : Step) : Act Reply := do
  let hub := (← get).mainHub
  match step with
  | .on .. | .once .. | .fire .. | .off .. | .offOwner .. | .clearBus | .hasListeners ..
  | .countListeners .. => performEvent host hub step
  | .store .. | .load .. | .pick .. | .has .. | .delete .. | .contains .. | .setVariable ..
  | .clean => performStore hub step
  | .setReader .. | .mapElement .. | .mapAttribute .. | .listVerbs .. | .extendVerbs ..
  | .registerVerbs .. | .invokeVerb .. => performContext host hub step
  | .makeModule .. | .findModule .. | .run .. | .execute .. | .frame .. =>
    performProgram host step
  | .build .. | .keep .. | .inspect .. | .dispose .. | .append .. | .listenAs ..
  | .executeOn .. => performObject host hub step
  | step =>
    match moduleNameOf? step with
    | some name => do performModule host (← placeOf name) step
    | none => return .null

end CommandHost.Scenario
