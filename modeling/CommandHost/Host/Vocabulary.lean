/-!
# What a host brings along

The program runs code that is not its own: listeners, operations, verbs, objects
that want a tick, objects that act when they are created. A `Vocabulary` names
such code by types; what it does is said apart, so that statements can range
over everything it might do.
-/

namespace CommandHost

/-- The types by which a host names its code, what it notes down, and what it
remembers. -/
structure Vocabulary where
  /-- What listeners do. -/
  Callback : Type
  /-- What operations of modules do. -/
  Handler : Type
  /-- What verbs of objects do. -/
  Verb : Type
  /-- What objects do at a frame. -/
  Ticker : Type
  /-- What objects do when they have been created. -/
  Hook : Type
  /-- What the host notes down while its code runs. -/
  Note : Type
  /-- What the host remembers. -/
  Memory : Type

end CommandHost
