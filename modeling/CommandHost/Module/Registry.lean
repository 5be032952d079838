import CommandHost.Table

/-!
# The objects of a module

A registry keeps objects, which are given by their places in the world, under
their ids, and apart from that those that listen to frames. An object that is
added under a taken id takes its place at the end.
-/

namespace CommandHost

/-- Objects by id, and those of them that listen to frames. -/
structure Registry where
  objects : Table Nat
  frameListeners : Table Nat
  deriving DecidableEq, Repr

namespace Registry

/-- A registry without objects. -/
def empty : Registry := ⟨[], []⟩

instance : Inhabited Registry := ⟨empty⟩

/-- The object of an id. -/
def get? (registry : Registry) (id : String) : Option Nat := registry.objects.get? id

/-- Whether an id has an object. -/
def has (registry : Registry) (id : String) : Bool := registry.objects.has id

/-- The registry without the object of an id. -/
def remove (registry : Registry) (id : String) : Registry :=
  ⟨registry.objects.erase id, registry.frameListeners.erase id⟩

/-- Adds an object under an id; an object that had the id is removed first. -/
def add (registry : Registry) (id : String) (handle : Nat) (listensToFrames : Bool) : Registry :=
  let vacant := if registry.has id then registry.remove id else registry
  { objects := vacant.objects.put id handle
    frameListeners :=
      if listensToFrames then vacant.frameListeners.put id handle else vacant.frameListeners }

/-- Removes an object, given with its id, if it is the one that has the id. -/
def removeOwn (registry : Registry) (id : String) (handle : Nat) : Registry :=
  if registry.get? id = some handle then registry.remove id else registry

/-- How many objects there are. -/
def count (registry : Registry) : Nat := registry.objects.length

/-! ## Small facts -/

theorem get?_remove (registry : Registry) (id other : String) :
    (registry.remove id).get? other = if other = id then none else registry.get? other :=
  Table.get?_erase ..

/-- An added object has its id, and other ids keep their objects. -/
theorem get?_add (registry : Registry) (id other : String) (handle : Nat)
    (listensToFrames : Bool) :
    (registry.add id handle listensToFrames).get? other =
      if other = id then some handle else registry.get? other := by
  unfold add get?
  simp only [Table.get?_put]
  by_cases same : other = id
  · simp [same]
  · by_cases taken : registry.has id = true
    · simp [same, taken, remove, Table.get?_erase]
    · simp [same, taken]

end Registry

end CommandHost
