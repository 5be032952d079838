import CommandHost.World.Events

/-!
# The tree of objects

Objects are appended to one another and disposed with all that hangs below them.
A disposed object has released its listeners and has no place in the tree.
Going down a tree is bounded by the number of objects: a longer way down means
that an object hangs below itself, and that is refused.
-/

namespace CommandHost.World

variable {V : Vocabulary}

/-- Hangs an object below another one, behind the children that are there. -/
def append (parent child : Nat) : Effect V Unit := do
  Effect.updateObject child fun object => { object with parent := some parent }
  Effect.updateObject parent fun object => { object with children := object.children ++ [child] }

/-- How far down any tree of the world can reach. -/
def depthBound (world : World V) : Nat := world.objects.size + 1

/-- Takes an object off the list of its parent's children. -/
def detach (handle : Nat) : Effect V Unit := do
  match ((← get).object handle).parent with
  | none => return
  | some parent =>
    Effect.updateObject parent fun object =>
      { object with children := object.children.erase handle }

/-- Disposes one object whose children are disposed. -/
def retire (handle : Nat) : Effect V Unit := do
  let world ← get
  match (world.object handle).hub with
  | none => pure ()
  | some hub => releaseOwner hub (world.objectValue handle)
  detach handle
  Effect.updateObject handle fun object =>
    { object with children := [], parent := none, disposed := true }

/-- Disposes an object and what hangs below it, children first, down to a depth. -/
def disposeWithin : Nat → Nat → Effect V Unit
  | 0, _ => throw (.illegal .tooDeep)
  | depth + 1, handle => do
    let children := ((← get).object handle).children
    children.forM (disposeWithin depth)
    retire handle

/-- Disposes an object and what hangs below it. -/
def dispose (handle : Nat) : Effect V Unit := do
  disposeWithin (← get).depthBound handle

/-- An object and what hangs below it, parents first, down to a depth. -/
def subtreeWithin (world : World V) : Nat → Nat → Except IllegalUse (List Nat)
  | 0, _ => .error .tooDeep
  | depth + 1, handle =>
    ((world.object handle).children.mapM (subtreeWithin world depth)).map fun parts =>
      handle :: parts.flatten

/-- An object and what hangs below it, parents first. -/
def subtree (world : World V) (handle : Nat) : Except IllegalUse (List Nat) :=
  world.subtreeWithin world.depthBound handle

/-- Listens to an event with an object as the owner. An object without a bus does not
listen. -/
def listenAs (handle : Nat) (event : String) (callback : V.Callback) (once : Bool) :
    Effect V (Option String) := do
  let world ← get
  let object := world.object handle
  match object.hub with
  | none =>
    Effect.log (.plain .warning
      ("Object '" ++ object.id ++ "' has no event bus; listener ignored"))
    return none
  | some hub =>
    let id ← listen hub event callback ⟨once, world.objectValue handle, .null⟩
    return some id

end CommandHost.World
