import CommandHost.Module.OpName
import CommandHost.Module.Registry
import CommandHost.Object.Basic

/-!
# Modules

A module has a name, a context, objects, the classes it can create, and
operations under their normal names. Two operations are built in, which tell
about the module; the others are brought along by the host.
-/

namespace CommandHost

/-- What an operation does: one of the built-in operations, or one of the host. -/
inductive Operation (V : Vocabulary) where
  | help
  | info
  | custom (handler : V.Handler)

/-- Operations under their normal names. -/
abbrev Operations (V : Vocabulary) := Table (Operation V)

namespace Operations

variable {V : Vocabulary}

/-- The operations of every module. -/
def builtin : Operations V := [("help", .help), ("info", .info)]

/-- Adds an operation under a name, or replaces the one that has the name. -/
def register (operations : Operations V) (name : String) (operation : Operation V) :
    Operations V :=
  operations.put (normalOpName name) operation

/-- The operation of a name. -/
def find? (operations : Operations V) (name : String) : Option (Operation V) :=
  operations.get? (normalOpName name)

/-- The names of the operations in rising order. -/
def names (operations : Operations V) : List String :=
  operations.keys.mergeSort fun left right => decide (left ≤ right)

/-- A registered operation is found under every name with the same normal form, and
other names find what they found before. -/
theorem find?_register (operations : Operations V) (name other : String)
    (operation : Operation V) :
    (operations.register name operation).find? other =
      if normalOpName other = normalOpName name then some operation
      else operations.find? other :=
  Table.get?_put ..

end Operations

/-- What a kind of modules has: classes, operations, and possibly a help page that
depends on the topic. -/
structure ModuleClass (V : Vocabulary) where
  classes : Table (ObjectClass V)
  operations : Operations V
  help : Option (Option String → Entries)

/-- A module. -/
structure Module (V : Vocabulary) where
  name : String
  context : Nat
  registry : Registry
  classes : Table (ObjectClass V)
  operations : Operations V
  help : Option (Option String → Entries)

namespace Module

variable {V : Vocabulary}

instance : Inhabited (Module V) := ⟨⟨"", 0, .empty, [], [], none⟩⟩

/-- A new module of a kind. -/
def ofClass (kind : ModuleClass V) (name : String) (context : Nat) : Module V :=
  ⟨name, context, .empty, kind.classes, kind.operations, kind.help⟩

/-- Whether there is an operation of a name. -/
def hasOperation (place : Module V) (name : String) : Bool :=
  place.operations.has (normalOpName name)

/-- The names of the operations as a value. -/
def operationNames (place : Module V) : Value := .list (place.operations.names.map .text)

/-- The help page on a topic; without a page of its own, a module tells its
operations. -/
def helpPage (place : Module V) (topic : Option String) : Entries :=
  match place.help with
  | some page => page topic
  | none =>
    .ofTexts
      [("module", .text place.name), ("usage", .text (place.name ++ " help")),
        ("ops", place.operationNames),
        ("note", .text "No help() implemented for this module.")]

/-- What a module tells about itself. -/
def summary (place : Module V) : Entries :=
  .ofTexts
    [("module", .text place.name), ("objects", .int place.registry.count),
      ("ops", place.operationNames)]

end Module

end CommandHost
