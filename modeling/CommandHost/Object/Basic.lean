import CommandHost.Error.IllegalUse
import CommandHost.Host.Vocabulary
import CommandHost.Markup.Descriptor
import CommandHost.Nano.Verbs

/-!
# Objects and their classes

An object has an id, a type, a name and data, which come from its descriptor,
verbs, and a place in a tree. A class says what its objects have by default,
which verbs they understand besides, and what they do at frames and when they
have been created. Objects refer to one another by their places in the world.
-/

namespace CommandHost

/-- A class of objects. -/
structure ObjectClass (V : Vocabulary) where
  name : String
  defaults : Entries
  verbs : Verbs V.Verb
  /-- What its objects do at a frame, if they listen to frames. -/
  ticker : Option V.Ticker
  /-- What its objects do when they have been created. -/
  hook : Option V.Hook

/-- The class of the objects that have no type. -/
def ObjectClass.plain (V : Vocabulary) : ObjectClass V := ⟨"RuntimeObject", [], [], none, none⟩

/-- An object. -/
structure RuntimeObject (V : Vocabulary) where
  id : String
  type : String
  name : String
  data : Entries
  kind : ObjectClass V
  verbs : Verbs V.Verb
  /-- The hub on whose bus the object acts. -/
  hub : Option Nat
  parent : Option Nat
  children : List Nat
  disposed : Bool

namespace RuntimeObject

variable {V : Vocabulary}

/-- The type of an object whose descriptor has none. -/
def defaultType : String := "object"

instance : Inhabited (RuntimeObject V) :=
  ⟨⟨"", defaultType, "", [], .plain V, [], none, none, [], false⟩⟩

/-- Whether an entry of a descriptor has a value that counts as true. -/
def properValue? (descriptor : Entries) (key : String) : Option Value :=
  match descriptor.get? key with
  | some value => if value.truthy then some value else none
  | none => none

/-- The text of an entry of a descriptor, or a default where it counts as false. -/
def entryText (descriptor : Entries) (key default : String) : Except IllegalUse String :=
  match properValue? descriptor key with
  | some value => value.toText
  | none => .ok default

/-- The entries of a descriptor that are data. -/
def dataOf (descriptor : Entries) : Entries :=
  let keys := DescriptorKeys.standard
  (((descriptor.drop keys.id).drop keys.type).drop keys.children).drop keys.name

/-- The object of a descriptor. `fresh` is its id unless the descriptor gives one. -/
def ofDescriptor (kind : ObjectClass V) (descriptor : Entries) (fresh : String)
    (verbs : Verbs V.Verb) (hub : Option Nat) : Except IllegalUse (RuntimeObject V) := do
  let keys := DescriptorKeys.standard
  let id ← entryText descriptor keys.id fresh
  let type ← entryText descriptor keys.type defaultType
  let name ← entryText descriptor keys.name id
  return {
    id
    type
    name
    data := dataOf descriptor
    kind
    verbs := verbs.extend kind.verbs
    hub
    parent := none
    children := []
    disposed := false }

/-- Whether the object wants to hear of frames. -/
def listensToFrames (object : RuntimeObject V) : Bool := object.kind.ticker.isSome

/-- What an object prints as. -/
def label (object : RuntimeObject V) : String :=
  "<" ++ object.kind.name ++ " id=\"" ++ object.id ++ "\" type=\"" ++ object.type ++ "\">"

end RuntimeObject

end CommandHost
