import CommandHost.Error.IllegalUse
import CommandHost.Error.Report
import CommandHost.Markup.Node
import CommandHost.Text.Blank
import CommandHost.Xml.Document

/-!
# Descriptors of markup

A descriptor is a mapping with a type, the descriptors of the children, and the
attributes of a node under their keys. Inside of a vector drawing every node is
passed through as it is, with its name and the namespace of the drawing. Pseudo
nodes among the children have no descriptor.
-/

namespace CommandHost

/-- The keys of descriptors that have a meaning of their own. -/
structure DescriptorKeys where
  type : String
  children : String
  id : String
  name : String
  text : String
  tag : String
  space : String

/-- The keys of all descriptors. -/
def DescriptorKeys.standard : DescriptorKeys :=
  ⟨"_type", "_children", "_id", "_name", "text", "_html_tag", "_html_ns"⟩

/-- The type of vector drawings. -/
def drawingType : String := "svg"

/-- The namespace of vector drawings. -/
def drawingSpace : String := "http://www.w3.org/2000/svg"

/-- Why markup gives no descriptor. -/
inductive MarkupFault where
  | malformed (cause : Xml.Fault)
  | illegal (cause : IllegalUse)

/-- The report of malformed markup; the other cause is an illegal use. -/
def MarkupFault.report? : MarkupFault → Except IllegalUse Report
  | malformed cause => .ok (.parsing ("Malformed markup: " ++ cause.message) [])
  | illegal cause => .error cause

namespace MarkupMapping

/-- The text of a node without its margins, unless nothing is left. -/
def properText (text : Option String) : Option String :=
  (text.map Text.stripString).filter (· ≠ "")

/-- The descriptor of a node without its children. In a raw conversion the node is
passed through as it is. -/
def ownEntries (mapping : MarkupMapping) (raw : Bool) (name : String)
    (attributes : Table Value) (text : Option String) : Entries :=
  let keys := DescriptorKeys.standard
  let start : Entries := .ofTexts [(keys.children, .list [])]
  let typed :=
    if raw then (start.set keys.type (.text rawType)).set keys.space (.text drawingSpace)
    else start.set keys.type (.text (mapping.elementType name))
  let filled := attributes.foldl
    (fun sofar entry => sofar.set (mapping.attributeKey entry.1) entry.2) typed
  let texted :=
    match properText text with
    | some content => filled.set keys.text (.text content)
    | none => filled
  match texted.getOrNull keys.type with
  | .text content =>
    if content = rawType then texted.set keys.tag (.text name)
    else if content = drawingType then texted.set keys.space (.text drawingSpace)
    else texted
  | _ => texted

/-- Whether the children of a node are passed through as they are, given its own
descriptor. -/
def rawChildren (raw : Bool) (own : Entries) : Bool :=
  match own.getOrNull DescriptorKeys.standard.type with
  | .text content => raw || content = drawingType
  | _ => raw

mutual

/-- The descriptor of a node. It fails if an attribute took the place of the list of
children and there are children. -/
def toDescriptor (mapping : MarkupMapping) (raw : Bool) : MarkupNode → Except IllegalUse Entries
  | .node name attributes text children =>
    let own := mapping.ownEntries raw name attributes text
    let key := DescriptorKeys.standard.children
    let present := own.getOrNull key
    if children.all MarkupNode.isPseudo then .ok own
    else
      match present with
      | .list items =>
        (childDescriptors mapping (rawChildren raw own) children).map fun found =>
          own.set key (.list (items ++ found))
      | value => .error (.missingAttribute value.kindName "append")

/-- The descriptors of the children that are no pseudo nodes. -/
def childDescriptors (mapping : MarkupMapping) (raw : Bool) :
    List MarkupNode → Except IllegalUse (List Value)
  | [] => .ok []
  | child :: rest =>
    if child.isPseudo then childDescriptors mapping raw rest
    else
      match toDescriptor mapping raw child with
      | .error fault => .error fault
      | .ok found => (childDescriptors mapping raw rest).map fun others => .map found :: others

end

/-- The descriptor of the root element of a markup text; of a blank text, the empty
mapping. -/
def fromText (mapping : MarkupMapping) (text : Option String) : Except MarkupFault Entries :=
  let text := text.getD ""
  if Text.isBlankText text.toList then .ok []
  else
    match Xml.parse text with
    | .error cause => .error (.malformed cause)
    | .ok root =>
      match root.toMarkup? with
      | some node => (mapping.toDescriptor false node).mapError .illegal
      | none => .ok []

end MarkupMapping

end CommandHost
