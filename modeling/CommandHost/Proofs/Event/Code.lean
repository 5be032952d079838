import CommandHost.World.Events

/-!
# Listeners that use their bus

What listeners do is up to the host.  Here they run any `Code` over one bus: it
registers and releases listeners, clears the bus and fires events, each time in
the light of everything that happened so far, and it may fail at any point.  Where a
fire fails, it goes on in the light of that failure.  The steps are those of the
world; a delivery that meets such a listener again runs its code again, up to some
depth of nesting.

Each step is noted in the memory of the host together with the bus that it leaves
behind, so that a run has a history that one can speak about.
-/

namespace CommandHost

/-- What a listener does by name, together with the id under which it is
registered. -/
structure Observed (κ : Type) where
  id : String
  name : κ

/-- What can happen to a bus. -/
inductive Deed (κ : Type) where
  | registered (listener : Listener (Observed κ))
  | removed (id : String)
  | removedOwner (owner : Value)
  | cleared
  | began (event : String) (payload : Value)
  | called (id : String) (payload : Value)
  | ended
  /-- The pass in progress is broken off. -/
  | abandoned

/-- Something that happened, and the bus right after it. -/
structure Moment (κ : Type) where
  deed : Deed κ
  bus : Bus (Observed κ)

/-- The vocabulary of a host whose only code is that of listeners, and which
remembers the moments of a run. -/
abbrev observed (κ : Type) : Vocabulary where
  Callback := Observed κ
  Handler := Empty
  Verb := Empty
  Ticker := Empty
  Hook := Empty
  Note := Empty
  Memory := List (Moment κ)

/-- What is done with a bus, step by step. -/
inductive Code (κ : Type) where
  | done
  | fail (fault : Fault)
  | look (next : List (Moment κ) → Bus (Observed κ) → Code κ)
  | listen (event : String) (name : κ) (options : ListenerOptions) (next : String → Code κ)
  | release (id : String) (next : Code κ)
  | releaseOwner (owner : Value) (next : Code κ)
  | drop (next : Code κ)
  /-- Fires an event, and goes on with the failure of the fire if it fails. -/
  | fire (event : String) (payload : Value) (next : Option Fault → Code κ)

variable {κ : Type}

/-- Code that goes on if nothing failed, and fails with the failure otherwise. -/
def Code.unless (next : Code κ) : Option Fault → Code κ
  | none => next
  | some fault => .fail fault

/-- Notes down that something happened to the bus of a hub. -/
def note (hub : Nat) (deed : Deed κ) : Effect (observed κ) Unit :=
  modify fun world =>
    { world with memory := world.memory ++ [⟨deed, (world.hub hub).bus⟩] }

/-- The failure of a step, if it fails. -/
def attempt (act : Effect (observed κ) Unit) : Effect (observed κ) (Option Fault) := do
  try
    act
    pure none
  catch fault => pure (some fault)

/-- How a pass is over, for a fire that failed or not. -/
def Deed.ending : Option Fault → Deed κ
  | none => .ended
  | some _ => .abandoned

/-- Runs code on the bus of a hub. -/
def Code.run (host : Host (observed κ)) (hub : Nat) : Code κ → Effect (observed κ) Unit
  | .done => pure ()
  | .fail fault => throw fault
  | .look next => do
    let world ← get
    (next world.memory (world.hub hub).bus).run host hub
  | .listen event name options next => do
    let world ← get
    let callback : Observed κ := ⟨World.listenerId (world.listenerIds + 1), name⟩
    let id ← World.listen hub event callback options
    note hub (.registered (.make id event callback options .null))
    (next id).run host hub
  | .release id next => do
    World.release hub id
    note hub (.removed id)
    next.run host hub
  | .releaseOwner owner next => do
    World.releaseOwner hub owner
    note hub (.removedOwner owner)
    next.run host hub
  | .drop next => do
    World.dropListeners hub
    note hub .cleared
    next.run host hub
  | .fire event payload next => do
    note hub (.began event payload)
    let failure ← attempt (World.fire host hub event payload)
    note hub (.ending failure)
    (next failure).run host hub

/-- What each listener does with a payload. -/
abbrev Behaviour (κ : Type) := Observed κ → Value → Code κ

/-- A host whose listeners note down that they are called and then act. -/
def observing (hub : Nat) (act : Observed κ → Value → Effect (observed κ) Unit) :
    Host (observed κ) where
  callback who payload := do
    note hub (.called who.id payload)
    act who payload
  handler name := nomatch name
  verb name := nomatch name
  ticker name := nomatch name
  hook name := nomatch name

/-- The host of a behaviour, with deliveries nested up to a depth. Below it every
listener fails. -/
def Behaviour.host (behaviour : Behaviour κ) (hub : Nat) : Nat → Host (observed κ)
  | 0 => observing hub fun _ _ => throw (.illegal .tooDeep)
  | depth + 1 =>
    observing hub fun who payload =>
      (behaviour who payload).run (behaviour.host hub depth) hub

end CommandHost
