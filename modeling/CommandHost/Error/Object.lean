import CommandHost.Error.IllegalUse
import CommandHost.Error.Report

/-!
# Errors as objects

An error that was raised is an object with attributes: its message, details, code
and level, what its class adds, and what the caller gave besides. A few names belong
to every object or every error and do not take every value. `describe` gives what an
error tells about itself as a mapping.
-/

namespace CommandHost

/-- An error as an object. -/
structure ErrorObject where
  kind : ErrorClass
  /-- What the error prints: its message, unless the caller chose other texts. -/
  arguments : List Value
  /-- The attributes that were set, by name. -/
  attributes : Entries

/-- Whether an atom is a text. -/
def Atom.isText : Atom → Bool
  | .text _ => true
  | _ => false

namespace ErrorObject

/-- The attributes with which every error begins. -/
def baseNames : List String := ["message", "details", "code", "level"]

/-- An error with no attributes but those. -/
def opened (kind : ErrorClass) (message details code level : Value) : ErrorObject where
  kind := kind
  arguments := [message]
  attributes :=
    .ofTexts [("message", message), ("details", details), ("code", code), ("level", level)]

/-- The attributes that link an error to others: each holds another error, a trace of calls,
or nothing. -/
def linkNames : List String := ["__cause__", "__context__", "__traceback__"]

/-- Sets an attribute. The name `args` stands for what the error prints and `__dict__` for
all its attributes together. -/
def set (error : ErrorObject) (name : Atom) (value : Value) : Except IllegalUse ErrorObject :=
  let unfit (name : String) : Except IllegalUse ErrorObject :=
    .error (.unfitAttribute name value.kindName)
  match name with
  | .text "args" => value.toItems.map fun arguments => { error with arguments }
  | .text "__dict__" =>
    match value with
    | .map entries => .ok { error with attributes := .ofPairs entries }
    | _ => unfit "__dict__"
  | .text "__class__" => unfit "__class__"
  | .text "__weakref__" => .error (.missingAttribute error.kind.name "__weakref__")
  | .text "__suppress_context__" =>
    match value with
    | .bool _ => .ok error
    | _ => unfit "__suppress_context__"
  | name =>
    match linkNames.find? fun link => (Atom.text link).same name with
    | some link => if value.isNull then .ok error else unfit link
    | none => .ok { error with attributes := error.attributes.assign name value }

/-- Sets attributes one after another. -/
def setAll (error : ErrorObject) : List (Atom × Value) → Except IllegalUse ErrorObject
  | [] => .ok error
  | (name, value) :: rest => do (← error.set name value).setAll rest

/-- The value of an attribute that has to be there. -/
def valueOf (error : ErrorObject) (name : String) : Except IllegalUse Value :=
  match error.attributes.get? name with
  | some value => .ok value
  | none => .error (.missingAttribute error.kind.name name)

/-- Whether an attribute of this name is shown besides the base entries. -/
def shows (name : Atom) : Bool :=
  match name with
  | .text content =>
    !content.toList.head?.any (· == '_') &&
      !(["message", "details", "code", "level", "args"].contains content)
  | _ => false

/-- The base entries of what an error tells. -/
def baseEntries (kind : ErrorClass) (message code level details : Value) : Entries :=
  .ofTexts
    [("message", message), ("type", .text kind.name), ("code", code), ("level", level),
      ("details", details)]

/-- What an error tells about itself: five base entries, overlaid by the attributes that
are shown, which are looked for among all of them in the order of their names. An attribute
can hide the way to ask for it. -/
def describe (error : ErrorObject) : Except IllegalUse Entries := do
  if let some value := error.attributes.get? "to_dict" then
    throw (.notCallable value.kindName)
  let message ← error.valueOf "message"
  let code ← error.valueOf "code"
  let level ← error.valueOf "level"
  let details ← error.valueOf "details"
  if !error.attributes.all fun entry => entry.1.isText then throw .mixedNames
  return (baseEntries error.kind message code level details).update
    (error.attributes.filter fun entry => shows entry.1)

/-- The text of an error. -/
def print (error : ErrorObject) : String := printArguments error.arguments

/-- An error that the program raises on its own account. -/
def ofReport (report : Report) : ErrorObject :=
  let error := opened report.kind report.message report.details report.code report.level
  { error with
    arguments := report.arguments
    attributes := error.attributes.update report.attributes }

end ErrorObject

end CommandHost
