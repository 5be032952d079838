import CommandHost.Error.Object

/-!
# Building errors from arguments

An error is built from positional and named arguments. Each class has a list of
parameters that are filled in order or by name; some classes admit a code, a
level and further attributes by name. `ErrorObject.build` binds the arguments of a
class and makes the error.
-/

namespace CommandHost

/-- The parameters of a class of errors. -/
structure Signature where
  /-- The parameters that can be given by position, in order. -/
  parameters : List String
  /-- How many of them have to be given. -/
  required : Nat
  /-- Whether further attributes can be given by name. -/
  extensible : Bool

/-- The parameters of each class. -/
def ErrorClass.signature : ErrorClass → Signature
  | .general => ⟨["message", "details"], 1, true⟩
  | .parsing | .configuration | .resolution => ⟨["message", "details"], 0, true⟩
  | .invalidCommand => ⟨["message", "module_name", "details"], 0, true⟩
  | .objectNotFound => ⟨["module_name", "object_id"], 2, false⟩
  | .operationNotFound => ⟨["module_name", "op"], 2, false⟩
  | .unknownModule => ⟨["module_name"], 1, false⟩
  | .unknownNanoCommand => ⟨["object_id", "verb", "module_name"], 2, false⟩
  | .objectCreation => ⟨["message", "object_type", "details"], 0, false⟩

/-- The message of a class when none is given. -/
def ErrorClass.defaultMessage : ErrorClass → String
  | .parsing => "Parsing failed"
  | .configuration => "Configuration error"
  | .invalidCommand => "Invalid command"
  | .resolution => "Command target not found"
  | .objectCreation => "Failed to create object"
  | _ => ""

/-- The arguments of a call: those that fill parameters, and the others. -/
structure Bound where
  filled : Entries
  others : Entries

/-- The arguments that are set as attributes: those that fill no parameter, but for the code
and the level. -/
def Bound.extras (bound : Bound) : Entries := (bound.others.drop "code").drop "level"

/-- Whether a named argument fills a parameter. -/
def Signature.takes (signature : Signature) (entry : Atom × Value) : Bool :=
  signature.parameters.any fun name => (Atom.text name).same entry.1

/-- Whether a call gives each parameter at most once, all that have to be given, and
nothing else unless the class admits it. The names of arguments are texts, and `self` is
filled already. -/
def Signature.accepts (signature : Signature) (positional : List Value) (named : Entries) :
    Bool :=
  let byPosition := Entries.ofTexts (signature.parameters.zip positional)
  let byName := named.filter signature.takes
  positional.length ≤ signature.parameters.length &&
    (signature.parameters.take signature.required).all (fun name =>
      (byPosition ++ byName).has (.text name)) &&
    byName.all (fun entry => !byPosition.has entry.1) &&
    (signature.extensible || named.all signature.takes) &&
    !named.has (.text "self") &&
    named.all (fun entry => entry.1.isText)

/-- Binds positional and named arguments to parameters. -/
def Signature.bind (signature : Signature) (positional : List Value) (named : Entries) :
    Except IllegalUse Bound :=
  if signature.accepts positional named then
    .ok
      { filled :=
          .ofTexts (signature.parameters.zip positional) ++ named.filter signature.takes
        others := named.filter fun entry => !signature.takes entry }
  else .error .badArguments

/-- Details that are copied before something is named in them. -/
def Report.namedDetails (details : Value) (key : String) (value : Value) :
    Except IllegalUse Value :=
  if !details.truthy then .ok (.map (naming key value []))
  else
    match details with
    | .map entries => .ok (.map (naming key value entries))
    | .list items =>
      if value.truthy then .error (.missingAttribute "list" "setdefault") else .ok (.list items)
    | other => .error (.missingAttribute other.kindName "copy")

namespace ErrorObject

/-- An error with the attributes that its class gives it, from the arguments that fill
parameters and the code and the level. Only two classes let the caller choose the code. -/
def begun (kind : ErrorClass) (filled : Entries) (code level : Option Value) :
    Except IllegalUse ErrorObject :=
  let argument (name : String) : Value := filled.getOrNull name
  let opened (details code : Value) : ErrorObject :=
    opened kind ((filled.get? "message").getD (.text kind.defaultMessage))
      (details.orElse (.map [])) (code.orElse (.text ErrorClass.general.code))
      (level.getD (.text Report.defaultLevel))
  match kind with
  | .general => .ok (opened (argument "details") (code.getD .null))
  | .resolution => .ok (opened (argument "details") (code.getD (.text kind.code)))
  | .parsing | .configuration =>
    if code.isSome then .error .badArguments
    else .ok (opened (argument "details") (.text kind.code))
  | .invalidCommand => do
    let details ← Report.namedDetails (argument "details") "module" (argument "module_name")
    if code.isSome then .error .badArguments else .ok (opened details (.text kind.code))
  | .objectNotFound =>
    .ok (ofReport (.objectNotFound (argument "module_name") (argument "object_id")))
  | .operationNotFound =>
    .ok (ofReport (.operationNotFound (argument "module_name") (argument "op")))
  | .unknownModule => .ok (ofReport (.unknownModule (argument "module_name")))
  | .unknownNanoCommand =>
    .ok (ofReport
      (.unknownNanoCommand (argument "object_id") (argument "verb") (argument "module_name")))
  | .objectCreation => do
    let details ←
      Report.namedDetails (argument "details") "object_type" (argument "object_type")
    return opened details (.text kind.code)

/-- An error with the attribute that its class sets last. -/
def finish (error : ErrorObject) (filled : Entries) : ErrorObject :=
  if error.kind = .invalidCommand then
    { error with attributes := error.attributes.set "module_name" (filled.getOrNull "module_name") }
  else error

/-- Builds an error of a class from its arguments. -/
def build (kind : ErrorClass) (positional : List Value) (named : Entries) :
    Except IllegalUse ErrorObject := do
  let bound ← kind.signature.bind positional named
  let error ← begun kind bound.filled (bound.others.get? "code") (bound.others.get? "level")
  let error ← error.setAll bound.extras
  return error.finish bound.filled

end ErrorObject

end CommandHost
