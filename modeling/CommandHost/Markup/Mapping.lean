import CommandHost.Config.Problem
import CommandHost.Table

/-!
# Names of markup and names of descriptors

A `MarkupMapping` says which type the elements of a name have and under which
key the attributes of a name are kept. A name that it does not list, or lists
with an empty text, stands for itself.
-/

namespace CommandHost

/-- The type of markup that is passed through as it is. -/
def rawType : String := "xhtml"

/-- What element names and attribute names stand for. -/
structure MarkupMapping where
  elements : Table String
  attributes : Table String
  deriving DecidableEq, Repr

namespace MarkupMapping

/-- The elements of the standard mapping that are passed through. -/
def rawElements : List String :=
  ["b", "h1", "h2", "h3", "h4", "h5", "p", "small", "aside", "span", "table", "th", "td", "tr",
    "thead", "tbody", "ul", "li", "ol", "canvas"]

/-- The mapping that holds unless another one is given. -/
def standard : MarkupMapping :=
  { elements :=
      [("div", "view"), ("a", "link")] ++ rawElements.map (fun name => (name, rawType)) ++
        [("img", "image")]
    attributes := [("id", "_id")] }

instance : Inhabited MarkupMapping := ⟨standard⟩

/-- What a name stands for. -/
def find (names : Table String) (name : String) : String :=
  match names.get? name with
  | none => name
  | some target => if target = "" then name else target

/-- Maps the elements of a name to a type. -/
def registerElement (mapping : MarkupMapping) (name objectType : String) : MarkupMapping :=
  { mapping with elements := mapping.elements.put name objectType }

/-- Maps the attributes of a name to a key. -/
def registerAttribute (mapping : MarkupMapping) (name key : String) : MarkupMapping :=
  { mapping with attributes := mapping.attributes.put name key }

/-- The type of the elements of a name. -/
def elementType (mapping : MarkupMapping) (name : String) : String := find mapping.elements name

/-- The key of the attributes of a name. -/
def attributeKey (mapping : MarkupMapping) (name : String) : String := find mapping.attributes name

/-! ## Reading and dumping -/

/-- Reads texts under text keys. -/
def readNames : List (Atom × Value) → Checked (Table String)
  | [] => .ok []
  | (key, value) :: rest =>
    let name := match key with
      | .text name => name
      | _ => ""
    let target : Checked String := match value with
      | .text content => .ok content
      | _ => .problem .notText
    ((Checked.under name target).both (readNames rest)).map fun (target, others) =>
      (name, target) :: others

/-- Reads a mapping from texts to texts. -/
def readTable : Value → Checked (Table String)
  | .map entries => readNames entries
  | _ => .problem .notMapping

/-- Reads a markup mapping. -/
def read (entries : Entries) : Checked MarkupMapping :=
  ((Checked.field entries "elements" standard.elements readTable).both
    (Checked.field entries "attributes" standard.attributes readTable)).map
      fun (elements, attributes) => ⟨elements, attributes⟩

/-- A markup mapping as a mapping. -/
def dump (mapping : MarkupMapping) : Entries :=
  let table (names : Table String) : Value :=
    .map (names.map fun (name, target) => (.text name, .text target))
  .ofTexts [("elements", table mapping.elements), ("attributes", table mapping.attributes)]

end MarkupMapping

end CommandHost
