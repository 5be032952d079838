import CommandHost.Markup.Mapping
import CommandHost.Text.Pieces
import CommandHost.Xml.Node

/-!
# Markup nodes

A `MarkupNode` is what a descriptor is made from: a name, attributes, a text and
children. Nodes whose name begins with a hash are pseudo nodes, such as
comments. The tree of a document becomes markup nodes by dropping namespaces; of
the character data of an element only the part in front of its first child is
its text.
-/

namespace CommandHost

/-- A node of markup. -/
inductive MarkupNode where
  | node (name : String) (attributes : Table Value) (text : Option String)
      (children : List MarkupNode)

namespace MarkupNode

instance : Inhabited MarkupNode := ⟨.node "" [] none []⟩

/-- The name of a node. -/
def name : MarkupNode → String
  | node name _ _ _ => name

/-- What the names of pseudo nodes begin with. -/
def pseudoMark : Char := '#'

/-- Whether a name is that of a pseudo node. -/
def isPseudoName (name : String) : Bool := name.toList.head? = some pseudoMark

/-- Whether a node is a pseudo node. -/
def isPseudo (node : MarkupNode) : Bool := isPseudoName node.name

/-- A comment. -/
def comment : MarkupNode := node "#comment" [] none []

/-- A processing instruction. -/
def instruction : MarkupNode := node "#processing-instruction" [] none []

/-! ## Names without namespaces -/

/-- A name without the namespace that may stand in front of it in braces. -/
def localPart (name : String) : String :=
  String.ofList (Text.afterLast Xml.spaceMark name.toList)

/-- The attributes under their names without namespaces; of two with one name the later
value counts. -/
def localAttributes (attributes : Table Value) : Table Value :=
  Table.putAll [] (attributes.map fun entry => (localPart entry.1, entry.2))

mutual

/-- A node without the namespaces of its names. Pseudo nodes have no text. -/
def unqualified : MarkupNode → MarkupNode
  | node name attributes text children =>
    let name := localPart name
    node name (localAttributes attributes) (if isPseudoName name then none else text)
      (unqualifiedAll children)

/-- Nodes without the namespaces of their names. -/
def unqualifiedAll : List MarkupNode → List MarkupNode
  | [] => []
  | child :: rest => unqualified child :: unqualifiedAll rest

end

end MarkupNode

namespace Xml.Node

/-- The data in front of the first child, or nothing if there is none. -/
def leadingText : List Node → List Char
  | .data text :: rest => text ++ leadingText rest
  | _ => []

mutual

/-- The markup node of an element or a comment. Data is no node of its own. -/
def toMarkup? : Node → Option MarkupNode
  | .element name attributes content =>
    let text := leadingText content
    let values := attributes.map fun (name, value) => (name.localName, Value.text value)
    some (.node name.localName (MarkupNode.localAttributes values)
      (if text.isEmpty then none else some (String.ofList text)) (childNodes content))
  | .comment _ => some .comment
  | .data _ => none

/-- The markup nodes among the content of an element. -/
def childNodes : List Node → List MarkupNode
  | [] => []
  | child :: rest =>
    match toMarkup? child with
    | some found => found :: childNodes rest
    | none => childNodes rest

end

end Xml.Node

end CommandHost
