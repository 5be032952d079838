import CommandHost.Event.Listener
import CommandHost.Table
import CommandHost.Value.Equal

/-!
# The event bus

A bus keeps the listeners of every event in the order of their registration, and
an index from the id of a listener to its event. An event without listeners has
no bucket. What a bus does with a payload is not said here: delivery needs
the behaviour of the callbacks.
-/

namespace CommandHost

/-- The listeners of every event, and the event of every listener id. -/
structure Bus (κ : Type) where
  buckets : Table (List (Listener κ))
  index : Table String

namespace Bus

variable {κ : Type}

/-- A bus without listeners. -/
def empty : Bus κ := ⟨[], []⟩

instance : Inhabited (Bus κ) := ⟨empty⟩

/-- The listeners of an event, in the order of their registration. -/
def listenersOf (bus : Bus κ) (event : String) : List (Listener κ) :=
  (bus.buckets.get? event).getD []

/-- All listeners, event by event. -/
def listeners (bus : Bus κ) : List (Listener κ) := bus.buckets.values.flatten

/-- Registers a listener behind the others of its event. -/
def register (bus : Bus κ) (listener : Listener κ) : Bus κ where
  buckets := bus.buckets.put listener.event (bus.listenersOf listener.event ++ [listener])
  index := bus.index.put listener.id listener.event

/-- A bucket replaced by other listeners; a bucket without listeners is dropped. -/
def setBucket (buckets : Table (List (Listener κ))) (event : String)
    (listeners : List (Listener κ)) : Table (List (Listener κ)) :=
  if listeners.isEmpty then buckets.erase event else buckets.put event listeners

/-- Releases the listener of an id. An unknown id is ignored. -/
def remove (bus : Bus κ) (id : String) : Bus κ :=
  match bus.index.get? id with
  | none => bus
  | some event => {
      buckets := setBucket bus.buckets event
        ((bus.listenersOf event).eraseP fun listener => listener.id = id)
      index := bus.index.erase id }

/-- The ids of the listeners of an owner, event by event. An owner that counts as false
has none. Owners are told apart by equality, without regard to whether two of them are one
and the same, so that an owner with a part that is no number has none either. -/
def ownedIds (bus : Bus κ) (owner : Value) : List String :=
  if owner.truthy then
    (bus.listeners.filter fun listener => listener.owner.same owner).map Listener.id
  else []

/-- Releases the listeners of an owner. -/
def removeOwner (bus : Bus κ) (owner : Value) : Bus κ :=
  (bus.ownedIds owner).foldl remove bus

/-- Whether an event has listeners. -/
def hasListeners (bus : Bus κ) (event : String) : Bool := !(bus.listenersOf event).isEmpty

/-- How many listeners an event has. -/
def countOf (bus : Bus κ) (event : String) : Nat := (bus.listenersOf event).length

/-- How many listeners there are on the bus. -/
def count (bus : Bus κ) : Nat := bus.index.length

/-- The events that have listeners. -/
def eventNames (bus : Bus κ) : List String := bus.buckets.keys

/-! ## Small facts -/

@[simp] theorem listenersOf_empty (event : String) : (empty : Bus κ).listenersOf event = [] := rfl

/-- A new listener stands behind the others of its event; other events keep theirs. -/
theorem listenersOf_register (bus : Bus κ) (listener : Listener κ) (event : String) :
    (bus.register listener).listenersOf event =
      if event = listener.event then bus.listenersOf event ++ [listener]
      else bus.listenersOf event := by
  unfold listenersOf register
  rw [Table.get?_put]
  by_cases same : event = listener.event
  · subst same
    simp [listenersOf]
  · simp [same]

/-- An id that the bus does not know is ignored. -/
theorem remove_eq_self {bus : Bus κ} {id : String} (unknown : bus.index.get? id = none) :
    bus.remove id = bus := by
  simp [remove, unknown]

/-- A released id is not in the index any more, and other ids keep their events. -/
theorem index_remove (bus : Bus κ) (id other : String) :
    (bus.remove id).index.get? other = if other = id then none else bus.index.get? other := by
  unfold remove
  cases known : bus.index.get? id with
  | none =>
    by_cases same : other = id
    · subst same
      simp [known]
    · simp [same]
  | some event => simp [Table.get?_erase]

end Bus

end CommandHost
