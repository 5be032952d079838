import CommandHost.World.Tree

/-!
# Creating and removing objects

A module creates an object from a descriptor, with the children that the
descriptor describes. A creation that fails takes back what it registered. A
module removes an object together with what hangs below it.
-/

namespace CommandHost.World

variable {V : Vocabulary}

/-- The id of the object that is the one of a number among those without an id of their
own. -/
def freshId (number : Nat) : String := "auto-" ++ intText number

/-- Builds an object of a class from a descriptor. Its id, type and name have to be values
that can be written out. -/
def construct (kind : ObjectClass V) (descriptor : Entries) (verbs : Verbs V.Verb)
    (hub : Option Nat) : Effect V Nat := do
  let world ← get
  let given := RuntimeObject.properValue? descriptor DescriptorKeys.standard.id
  let number := world.objectIds + 1
  let object ←
    Effect.ofUse (RuntimeObject.ofDescriptor kind descriptor (freshId number) verbs hub)
  set { world with
    objects := world.objects.push object
    objectIds := if given.isSome then world.objectIds else number }
  return world.objects.size

/-- Registers an object with a module. -/
def addObject (place handle : Nat) : Effect V Unit := do
  let world ← get
  let object := world.object handle
  if (world.moduleOf place).registry.has object.id then
    Effect.log (.plain .warning ("Replacing object with duplicate id '" ++ object.id ++ "'"))
  Effect.updateRegistry place fun registry =>
    registry.add object.id handle object.listensToFrames

/-- Takes an object off the registry of a module, unless its id belongs to another
one. -/
def removeOwn (place handle : Nat) : Effect V Unit := do
  let id := ((← get).object handle).id
  Effect.updateRegistry place fun registry => registry.removeOwn id handle

/-- Disposes an object and what hangs below it, and takes all of it off the registry,
the lowest first. -/
def discard (place handle : Nat) : Effect V Unit := do
  let handles ← Effect.ofUse ((← get).subtree handle)
  dispose handle
  handles.reverse.forM (removeOwn place)

/-- The class and the full descriptor for a descriptor: a type has to be known, and its
defaults stand in front. -/
def resolve (known : Module V) (descriptor : Entries) :
    Except Fault (ObjectClass V × Entries) :=
  match RuntimeObject.properValue? descriptor DescriptorKeys.standard.type with
  | none => .ok (.plain V, descriptor)
  | some objectType =>
    match objectType with
    | .text name =>
      match known.classes.get? name with
      | some kind => .ok (kind, Entries.update kind.defaults descriptor)
      | none => .error (.unknownType known.name objectType)
    | .atom _ =>
      match objectType.toText with
      | .ok _ => .error (.unknownType known.name objectType)
      | .error cause => .error (.illegal cause)
    | _ => .error (.illegal (.unhashable objectType.kindName))

/-- The descriptors of the children. -/
def childrenOf (descriptor : Entries) : Except IllegalUse (List Value) :=
  match RuntimeObject.properValue? descriptor DescriptorKeys.standard.children with
  | none => .ok []
  | some children => children.toItems

/-- Lets an object act after its creation, and logs the creation. -/
def finish (host : Host V) (place handle : Nat) : Effect V Unit := do
  match ((← get).object handle).kind.hook with
  | none => pure ()
  | some hook => host.hook hook handle
  let world ← get
  let found := world.moduleOf place
  if (world.context found.context).config.logCreateObject then
    Effect.log (.plain .info
      ("Module " ++ found.name ++ " created object " ++ (world.object handle).id))

/-- Creates an object and what hangs below it, down to a depth. -/
def createWithin (host : Host V) (place : Nat) : Nat → Value → Effect V Nat
  | 0, _ => throw (.illegal .tooDeep)
  | depth + 1, data => do
    let given ← Effect.ofUse data.toEntries
    let world ← get
    let found := world.moduleOf place
    let context := world.context found.context
    let (kind, descriptor) ← MonadExcept.ofExcept (resolve found given)
    let handle ← construct kind descriptor context.verbs (some context.hub)
    addObject place handle
    try
      let children ← Effect.ofUse (childrenOf descriptor)
      children.forM fun child => do
        append handle (← createWithin host place depth child)
    catch fault =>
      discard place handle
      throw fault
    finish host place handle
    return handle

/-- How far below its own nesting a descriptor can reach by the defaults of classes. -/
def defaultsDepth : Nat := 1000

/-- Creates an object and what hangs below it from a descriptor. -/
def create (host : Host V) (place : Nat) (data : Value) : Effect V Nat :=
  createWithin host place (data.depth + defaultsDepth) data

/-- Creates an object from markup. Markup without an element gives none. -/
def createFromMarkup (host : Host V) (place : Nat) (text : Option String) :
    Effect V (Option Nat) := do
  let world ← get
  match (world.hub (world.hubOf place)).mapping.fromText text with
  | .error cause => throw (.markup cause)
  | .ok descriptor =>
    if descriptor.isEmpty then return none
    else return some (← create host place (.map descriptor))

/-- Removes the object of an id and what hangs below it. An unknown id is ignored. -/
def remove (place : Nat) (id : String) : Effect V Unit := do
  let world ← get
  let found := world.moduleOf place
  match found.registry.get? id with
  | none => return
  | some handle =>
    discard place handle
    if (world.context found.context).config.logRemoveObject then
      Effect.log (.plain .info ("Module " ++ found.name ++ " removed object " ++ id))

end CommandHost.World
