import CommandHost.Xml.Entity

/-!
# Prefixes of names

A `Scope` says which namespace each prefix is bound to; the empty prefix is that
of element names without a prefix. The attributes that bind prefixes extend the
scope of their own element, and are no attributes otherwise. A prefix that is
not bound cannot be used.
-/

namespace CommandHost.Xml

/-- A name with its namespace, if it has one. -/
structure Name where
  space : Option String
  localName : String
  deriving DecidableEq, Repr

/-- The prefixes that are bound, the innermost binding first. An empty namespace undoes
the binding of the empty prefix. -/
abbrev Scope := List (String × String)

/-- The namespace of the names that are reserved. -/
def reservedSpace : String := "http://www.w3.org/XML/1998/namespace"

/-- The namespace of the attributes that bind prefixes. -/
def bindingSpace : String := "http://www.w3.org/2000/xmlns/"

/-- The mark between a namespace and a name, which no namespace may hold. -/
def spaceMark : Char := '\x7d'

namespace Scope

/-- The scope outside of the root element. -/
def outermost : Scope := [("xml", reservedSpace)]

/-- Binds a prefix to a namespace. -/
def bind (scope : Scope) (start space : String) : Except Fault Scope :=
  if space = "" && start ≠ "" then .error .undeclaredPrefix
  else if start = "xmlns" then .error .reservedXmlns
  else if space.contains spaceMark then .error .misplacedToken
  else if start = "xml" then
    if space = reservedSpace then .ok ((start, space) :: scope) else .error .reservedXml
  else if space = reservedSpace || space = bindingSpace then .error .reservedNamespace
  else .ok ((start, space) :: scope)

/-- The namespace of a prefix. -/
def spaceOf? (scope : Scope) (start : String) : Option String :=
  (scope.lookup start).filter (· ≠ "")

end Scope

/-- The two parts of a written name, if it has a prefix. -/
def splitName? (written : String) : Option (String × String) :=
  let text := written.toList
  let start := text.takeWhile (· ≠ ':')
  match text.drop start.length with
  | _ :: rest => some (String.ofList start, String.ofList rest)
  | [] => none

/-- The prefix that an attribute of this name binds, if it binds one. -/
def boundPrefix? (written : String) : Option String :=
  if written = "xmlns" then some ""
  else
    match splitName? written with
    | some ("xmlns", start) => some start
    | _ => none

/-- The name of an element in a scope. -/
def Scope.elementName (scope : Scope) (written : String) : Except Fault Name :=
  match splitName? written with
  | some (start, localName) =>
    match scope.spaceOf? start with
    | some space => .ok ⟨some space, localName⟩
    | none => .error .unboundPrefix
  | none => .ok ⟨scope.spaceOf? "", written⟩

/-- The name of an attribute in a scope. Without a prefix it has no namespace. -/
def Scope.attributeName (scope : Scope) (written : String) : Except Fault Name :=
  match splitName? written with
  | some (start, localName) =>
    match scope.spaceOf? start with
    | some space => .ok ⟨some space, localName⟩
    | none => .error .unboundPrefix
  | none => .ok ⟨none, written⟩

/-- The attributes of an element while they are read: those seen so far, by written
name, and the scope that the bindings among them extend. -/
structure Gathering where
  seen : List String
  values : List (String × List Char)
  scope : Scope
  spent : Nat

namespace Gathering

/-- Takes one attribute with its value: as a binding, or as an attribute proper. -/
def add (gathering : Gathering) (written : String) (value : List Char) : Except Fault Gathering :=
  match boundPrefix? written with
  | some start =>
    (gathering.scope.bind start (String.ofList value)).map fun scope =>
      { gathering with scope, seen := written :: gathering.seen }
  | none =>
    .ok { gathering with
      seen := written :: gathering.seen
      values := gathering.values ++ [(written, value)] }

/-- Takes the attributes of a tag. -/
def addWritten (declared : Declared) (active : List String) (rules : List AttributeRule)
    (gathering : Gathering) : List (String × List Char) → Except Fault Gathering
  | [] => .ok gathering
  | (written, text) :: rest => do
    if gathering.seen.contains written then throw .duplicateAttribute
    let verbatim :=
      match rules.find? fun rule => rule.name = written with
      | some rule => rule.verbatim
      | none => true
    let (value, spent) ← declared.value active verbatim gathering.spent text
    let gathering ← { gathering with spent }.add written value
    addWritten declared active rules gathering rest

/-- Takes the declared defaults of the attributes that are missing. -/
def addDefaults (gathering : Gathering) : List AttributeRule → Except Fault Gathering
  | [] => .ok gathering
  | rule :: rest =>
    match rule.default with
    | some value =>
      if gathering.seen.contains rule.name then addDefaults gathering rest
      else
        match gathering.add rule.name value with
        | .error fault => .error fault
        | .ok gathering => addDefaults gathering rest
    | none => addDefaults gathering rest

/-- The names of the attributes in their scope, no two of which may be equal. -/
def resolve (scope : Scope) (found : List (Name × String)) :
    List (String × List Char) → Except Fault (List (Name × String))
  | [] => .ok found
  | (written, value) :: rest => do
    let name ← scope.attributeName written
    if name.space.isSome && found.any fun entry => entry.1 = name then throw .duplicateAttribute
    resolve scope (found ++ [(name, String.ofList value)]) rest

end Gathering

/-- An element that was opened: its name, its attributes, the scope of its content and
how much of expanded entities was read so far. -/
structure Opened where
  name : Name
  attributes : List (Name × String)
  scope : Scope
  spent : Nat

/-- Opens the element of a tag. The names are those of the entities that are being
expanded. -/
def Opened.ofTag (declared : Declared) (active : List String) (scope : Scope) (spent : Nat)
    (tag : Tag) : Except Fault Opened := do
  let rules := declared.rulesOf tag.name
  let gathering ← Gathering.addWritten declared active rules ⟨[], [], scope, spent⟩ tag.attributes
  let gathering ← gathering.addDefaults rules
  let attributes ← Gathering.resolve gathering.scope [] gathering.values
  let name ← gathering.scope.elementName tag.name
  return ⟨name, attributes, gathering.scope, gathering.spent⟩

end CommandHost.Xml
