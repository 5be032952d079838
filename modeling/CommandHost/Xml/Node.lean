import CommandHost.Xml.Scope

/-!
# The tree of markup

A node is an element, a run of character data or a comment. `Node.parse` reads a
document, that is one root element with what may stand around it. Instructions
leave no trace: the data around them is one run. Entities are expanded where
they are referred to; an element has to end in the entity in which it began.
-/

namespace CommandHost.Xml

/-- The nodes of markup. -/
inductive Node where
  | element (name : Name) (attributes : List (Name × String)) (content : List Node)
  | data (text : List Char)
  | comment (text : List Char)
  deriving Repr

instance : Inhabited Node := ⟨.data []⟩

/-- An element whose end was not met yet. -/
structure Pending where
  /-- The name as the tag writes it, which the end tag has to repeat. -/
  written : String
  opened : Opened
  /-- The content so far, the last node first. -/
  reversed : List Node

/-- The elements that are open, the innermost one first, the root once it is closed,
and how much of expanded entities was read so far. -/
structure Progress where
  pending : List Pending
  root : Option Node
  spent : Nat

namespace Progress

/-- The number of open elements. -/
def depth (progress : Progress) : Nat := progress.pending.length

/-- The scope of the innermost open element. -/
def scope (progress : Progress) : Scope :=
  match progress.pending with
  | [] => .outermost
  | pending :: _ => pending.opened.scope

/-- Adds a node to the innermost open element. Outside of the root it is dropped. -/
def add (progress : Progress) (node : Node) : Progress :=
  match progress.pending with
  | [] => progress
  | pending :: others =>
    { progress with pending := { pending with reversed := node :: pending.reversed } :: others }

/-- Adds a finished element: to the innermost open one, or as the root. -/
def addElement (progress : Progress) (node : Node) : Progress :=
  if progress.pending.isEmpty then { progress with root := some node } else progress.add node

/-- Opens the element of a tag, and closes it again if the tag is its own end. -/
def openTag (declared : Declared) (active : List String) (progress : Progress) (tag : Tag) :
    Except Fault Progress := do
  let opened ← Opened.ofTag declared active progress.scope progress.spent tag
  let progress := { progress with spent := opened.spent }
  if tag.closed then return progress.addElement (.element opened.name opened.attributes [])
  else return { progress with pending := ⟨tag.name, opened, []⟩ :: progress.pending }

/-- Closes the innermost open element with an end tag. -/
def closeTag (progress : Progress) (written : String) : Except Fault Progress :=
  match progress.pending with
  | [] => .error .asynchronousEntity
  | pending :: others =>
    if pending.written = written then
      let opened := pending.opened
      let node := Node.element opened.name opened.attributes pending.reversed.reverse
      .ok ({ progress with pending := others }.addElement node)
    else .error .mismatchedTag

end Progress

/-- What a reference to an entity in content gives: its text. -/
def Declared.entityInContent (declared : Declared) (active : List String) (name : String) :
    Except Fault (List Char) :=
  let shown := some ("&" ++ name ++ ";")
  match declared.entities.lookup name with
  | none => .error (.undefinedEntity (if declared.strict then none else shown))
  | some entity =>
    if active.contains name then .error .recursiveEntity
    else
      match entity with
      | .internal text => .ok text
      | .binary => .error .binaryEntity
      | .external => .error (.undefinedEntity shown)

/-- Reads a piece of content that begins with a bracket: a tag, a comment, an
instruction or a section. `base` is the number of elements that were open where
this text began, the names are those of the entities that are being expanded. -/
def readBracket (declared : Declared) (base : Nat) (active : List String) (progress : Progress) :
    Step Progress :=
  fun text =>
    match text with
    | [] => .error .unclosedToken
    | '!' :: '-' :: rest =>
      (readComment rest).map fun (content, rest) => (progress.add (.comment content), rest)
    | '!' :: '[' :: rest => do
      let (_, rest) ← readSectionStart rest
      let (content, rest) ← readSection [] rest
      return (if content.isEmpty then progress else progress.add (.data content), rest)
    | '!' :: rest => .error (unexpected rest)
    | '?' :: rest => do
      let (content, rest) ← Instruction.read rest
      if content.isDeclaration then throw .misplacedDeclaration else return (progress, rest)
    | '/' :: rest => do
      let (written, rest) ← Tag.readEnd rest
      if progress.depth = base then throw .asynchronousEntity
      return (← progress.closeTag written, rest)
    | _ => do
      let (tag, rest) ← Tag.read text
      return (← progress.openTag declared active tag, rest)

/-- Reads content up to the end of the root element, or, inside of an entity, up to the
end of its text. The names are those of the entities that are being expanded. -/
def readContent (declared : Declared) (base : Nat) :
    Nat → List String → Progress → List Char → Except Fault (Progress × List Char)
  | 0, _, _, _ => .error .amplification
  | fuel + 1, active, progress, text =>
    match text with
    | [] =>
      if base = 0 then .error .noElement
      else if progress.depth = base then .ok (progress, [])
      else .error .asynchronousEntity
    | '<' :: rest =>
      match readBracket declared base active progress rest with
      | .error fault => .error fault
      | .ok (progress, rest) =>
        if progress.root.isSome then .ok (progress, rest)
        else readContent declared base fuel active progress rest
    | '&' :: rest =>
      match readReference rest with
      | .error fault => .error fault
      | .ok (.character number, rest) =>
        match characterOf number with
        | .error fault => .error fault
        | .ok c => readContent declared base fuel active (progress.add (.data [c])) rest
      | .ok (.entity name, rest) =>
        match predefined? name with
        | some c => readContent declared base fuel active (progress.add (.data [c])) rest
        | none =>
          match declared.entityInContent active name with
          | .error fault => .error fault
          | .ok inner =>
            let spent := progress.spent + inner.length
            if expansionLimit < spent then .error .amplification
            else
              match
                readContent declared progress.depth fuel (name :: active)
                  { progress with spent } inner
              with
              | .error fault => .error fault
              | .ok (progress, _) => readContent declared base fuel active progress rest
    | text =>
      let (run, rest) := spanData text
      if run.isEmpty then .error .invalidToken
      else readContent declared base fuel active (progress.add (.data run)) rest

end CommandHost.Xml
