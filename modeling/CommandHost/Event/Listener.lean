import CommandHost.Value.Basic

/-!
# Listeners

A listener waits for an event. Its owner is a reference by which a group of
listeners is released at once.
-/

namespace CommandHost

/-- What can be chosen for a listener: whether it is released after its first
delivery, its owner, and a free label. -/
structure ListenerOptions where
  once : Bool
  owner : Value
  tag : Value

/-- The options that hold unless others are chosen. -/
def ListenerOptions.standard : ListenerOptions := ⟨false, .null, .null⟩

instance : Inhabited ListenerOptions := ⟨.standard⟩

/-- A listener; `callback` says what is done with a payload. -/
structure Listener (κ : Type) where
  id : String
  event : String
  callback : κ
  options : ListenerOptions
  owner : Value

namespace Listener

variable {κ : Type}

/-- A listener. An owner that is given apart comes before the owner of the options. -/
def make (id event : String) (callback : κ) (options : ListenerOptions) (owner : Value) :
    Listener κ :=
  ⟨id, event, callback, options, if owner.isNull then options.owner else owner⟩

/-- Whether the listener is released after its first delivery. -/
def once (listener : Listener κ) : Bool := listener.options.once

/-- The label of the listener. -/
def tag (listener : Listener κ) : Value := listener.options.tag

end Listener

end CommandHost
