import CommandHost.Error.IllegalUse

/-!
# Commands and their wire form

A command names a module, an operation or verb, parameters in order, and
possibly a target object. Its wire form is a mapping. Reading a mapping also
accepts the plain names of the four parts. The main fact: reading what was
written gives the command back, whenever its target counts as true.
-/

namespace CommandHost

/-- A command that is addressed to a module or to one of its objects. A parameter
given by position is kept under the text of its position. -/
structure Command where
  moduleName : String
  op : String
  params : Entries
  target : Option Value

namespace Command

/-- Whether the command is addressed to an object. -/
def hasTarget (command : Command) : Bool :=
  match command.target with
  | some target => target.truthy
  | none => false

/-- The parameter of a name, or else the one of a position, or else a default. -/
def param (command : Command) (position : Int) (name : String) (default : Value) : Value :=
  match command.params.get? name with
  | some value => value
  | none => (command.params.get? (intText position)).getD default

/-! ## The wire form -/

/-- The parts of a command. -/
inductive Part where
  | moduleName
  | target
  | op
  | params
  deriving DecidableEq, Repr

namespace Part

/-- The key of a part in the wire form. -/
def wireKey : Part → String
  | moduleName => "_module"
  | target => "_object"
  | op => "_op"
  | params => "_params"

/-- The plain name of a part. -/
def plainKey : Part → String
  | moduleName => "module"
  | target => "object_id"
  | op => "op"
  | params => "params"

/-- The value a mapping has for a part: under the wire key if that is present, even
with null, and otherwise under the plain name. -/
def pick (part : Part) (entries : Entries) : Value :=
  match entries.get? part.wireKey with
  | some value => value
  | none => entries.getOrNull part.plainKey

end Part

/-- The wire form of a command. The key of the target is there only if the command is
addressed to an object. -/
def toWire (command : Command) : Entries :=
  let base := Entries.ofTexts
    [(Part.moduleName.wireKey, .text command.moduleName), (Part.op.wireKey, .text command.op),
      (Part.params.wireKey, .map command.params)]
  match command.target with
  | some target => if target.truthy then base ++ [(.text Part.target.wireKey, target)] else base
  | none => base

/-- The text of a part, if it can be written out; what counts as false gives the empty
text. -/
def partText (value : Value) : Except IllegalUse String :=
  if value.truthy then value.toText else .ok ""

/-- Reads a command from a mapping. The module and the operation have to be written out,
and the parameters have to be a mapping or a list of pairs. -/
def ofWire (entries : Entries) : Except IllegalUse Command := do
  let moduleName ← partText (Part.moduleName.pick entries)
  let op ← partText (Part.op.pick entries)
  let params ← ((Part.params.pick entries).orElse (.map [])).toEntries
  let target := Part.target.pick entries
  return { moduleName, op, params, target := if target.truthy then some target else none }

/-! ## Reading back -/

theorem partText_text (content : String) : partText (.text content) = .ok content := by
  by_cases blank : content = ""
  · subst blank
    rfl
  · have counts : (Value.text content).truthy = true := by simpa [Value.truthy] using blank
    rw [partText, if_pos counts]
    rfl

/-- The wire form is that of the first three parts, followed by a target that counts as
true. -/
theorem toWire_eq (command : Command) :
    command.toWire =
      Entries.ofTexts
          [(Part.moduleName.wireKey, .text command.moduleName),
            (Part.op.wireKey, .text command.op), (Part.params.wireKey, .map command.params)] ++
        ((command.target.filter Value.truthy).map fun target =>
          (Atom.text Part.target.wireKey, target)).toList := by
  obtain ⟨moduleName, op, params, target⟩ := command
  cases target with
  | none => rfl
  | some target =>
    by_cases counts : target.truthy = true
    · simp [toWire, counts, Option.filter_some]
    · simp [toWire, counts, Option.filter_some]

theorem get?_target_toWire (command : Command) :
    command.toWire.get? Part.target.wireKey = command.target.filter Value.truthy := by
  rw [toWire_eq]
  cases command.target.filter Value.truthy <;> rfl

/-- What a wire form has for a part. A target that counts as false is left out. -/
theorem pick_toWire (command : Command) (part : Part) :
    part.pick command.toWire =
      match part with
      | .moduleName => .text command.moduleName
      | .op => .text command.op
      | .params => .map command.params
      | .target => (command.target.filter Value.truthy).getD .null := by
  rw [toWire_eq]
  cases command.target.filter Value.truthy <;> cases part <;> rfl

/-- A command whose target, if it has one, counts as true is read back from its wire
form. -/
theorem ofWire_toWire (command : Command)
    (proper : ∀ target, command.target = some target → target.truthy = true) :
    ofWire command.toWire = .ok command := by
  obtain ⟨moduleName, op, params, target⟩ := command
  have emptied : (Value.orElse (.map params) (.map [])).toEntries = .ok params := by
    cases params <;> rfl
  have kept : target.filter Value.truthy = target := by
    cases target with
    | none => rfl
    | some target => rw [Option.filter_some, if_pos (proper target rfl)]
  have restored :
      (if (target.getD .null).truthy then some (target.getD .null) else none) = target := by
    cases target with
    | none => rfl
    | some target => exact if_pos (proper target rfl)
  simp only [ofWire, pick_toWire, partText_text, emptied, kept, restored]
  rfl

end Command

end CommandHost
