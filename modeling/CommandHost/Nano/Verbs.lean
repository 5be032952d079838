import CommandHost.Table

/-!
# Nano commands

The verbs that an object understands. Three are built in, one of them under two
names; all others are brought along by the host. A registry can be extended,
which gives a new one, and the built-in registry can be added to, verb by verb,
until a verb is taken.
-/

namespace CommandHost

/-- What a verb does: one of the built-in commands, or a command of the host. -/
inductive NanoCommand (ν : Type) where
  | info
  | log
  | fire
  | custom (verb : ν)

/-- What the verbs of an object do. -/
abbrev Verbs (ν : Type) := Table (NanoCommand ν)

namespace Verbs

variable {ν : Type}

/-- The built-in verbs. -/
def builtin : Verbs ν :=
  [("info", .info), ("introspect", .info), ("log", .log), ("fire", .fire)]

/-- A registry with further verbs. A verb that was there does what it does among the
further ones. -/
def extend (verbs others : Verbs ν) : Verbs ν := Table.putAll verbs others

/-- Adds a command under verbs, one after the other. A verb that is taken is refused;
the verbs in front of it stay. -/
def register (verbs : Verbs ν) (command : NanoCommand ν) : List String → Verbs ν × Option String
  | [] => (verbs, none)
  | verb :: rest =>
    if verbs.has verb then (verbs, some verb) else register (verbs.put verb command) command rest

/-! ## Small facts -/

@[simp] theorem register_nil (verbs : Verbs ν) (command : NanoCommand ν) :
    verbs.register command [] = (verbs, none) := rfl

/-- A verb that is taken at the start changes nothing. -/
theorem register_taken {verbs : Verbs ν} {verb : String} (taken : verbs.has verb = true)
    (command : NanoCommand ν) (rest : List String) :
    verbs.register command (verb :: rest) = (verbs, some verb) := by
  simp [register, taken]

end Verbs

end CommandHost
