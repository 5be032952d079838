import CommandHost.Proofs.Value.Entries
import CommandHost.Proofs.Markup.Outcomes
import Mathlib.Data.List.Forall2

/-!
# Nodes and the nodes above them

Converting a node hands down one flag, which two places set: the caller, and every node that
is a drawing.  The main statement does without the flag.  A node and its descriptor stand at
the same path of the two trees, and what the descriptor says depends on the node itself and
on whether one of the nodes above it is a drawing.  Attributes are kept under keys that
descriptors do not use for themselves.
-/

namespace CommandHost

/-! ## Paths -/

namespace MarkupNode

/-- The attributes of a node. -/
def attributes : MarkupNode → Table Value
  | node _ attributes _ _ => attributes

/-- The text of a node. -/
def text : MarkupNode → Option String
  | node _ _ text _ => text

/-- The children of a node that are no pseudo nodes. -/
def properChildren : MarkupNode → List MarkupNode
  | node _ _ _ children => children.filter fun child => !child.isPseudo

/-- The node at a path, together with the nodes above it from the root on.  A path consists
of positions among the children that are no pseudo nodes. -/
def locate? (here : MarkupNode) : List Nat → Option (List MarkupNode × MarkupNode)
  | [] => some ([], here)
  | position :: path =>
    here.properChildren[position]?.bind fun child =>
      (locate? child path).map fun (above, inner) => (here :: above, inner)

variable {here inner : MarkupNode}

theorem mem_properChildren_iff {name : String} {attributes : Table Value} {text : Option String}
    {children : List MarkupNode} {child : MarkupNode} :
    child ∈ (node name attributes text children).properChildren ↔
      child ∈ children ∧ child.isPseudo = false := by
  simp [properChildren]

/-- A path leads to a node exactly if there is a way to it that passes no pseudo node. -/
theorem contains_iff_exists_locate? :
    here.Contains inner ↔ ∃ path above, here.locate? path = some (above, inner) := by
  constructor
  · intro contained
    induction contained with
    | self here => exact ⟨[], [], rfl⟩
    | child member proper inside inductionHypothesis =>
        obtain ⟨path, above, located⟩ := inductionHypothesis
        obtain ⟨position, first⟩ :=
          List.mem_iff_getElem?.mp (mem_properChildren_iff.mpr ⟨member, proper⟩)
        exact ⟨position :: path, _, by rw [locate?, first, Option.bind_some, located]; rfl⟩
  · rintro ⟨path, above, located⟩
    induction path generalizing here above with
    | nil =>
        obtain ⟨-, rfl⟩ := Prod.mk.inj (Option.some.inj located)
        exact .self here
    | cons position path inductionHypothesis =>
        obtain ⟨child, first, further⟩ := Option.bind_eq_some_iff.mp located
        obtain ⟨⟨others, last⟩, below, same⟩ := Option.map_eq_some_iff.mp further
        obtain ⟨-, rfl⟩ := Prod.mk.inj same
        cases here with
        | node name attributes text children =>
            obtain ⟨member, proper⟩ := mem_properChildren_iff.mp (List.mem_of_getElem? first)
            exact .child member proper (inductionHypothesis others below)

end MarkupNode

namespace Entries

/-- The descriptor at a position in the list of children of a descriptor. -/
def childDescriptor? (own : Entries) (position : Nat) : Option Entries :=
  match own.get? DescriptorKeys.standard.children with
  | some (.list items) =>
    match items[position]? with
    | some (.map child) => some child
    | _ => none
  | _ => none

/-- The descriptor at a path of positions in lists of children. -/
def descriptorAt? (own : Entries) : List Nat → Option Entries
  | [] => some own
  | position :: path =>
    (own.childDescriptor? position).bind fun child => descriptorAt? child path

/-- The keys are distinct texts. -/
structure IsNamed (entries : Entries) : Prop where
  textual : ∀ key ∈ entries.keys, ∃ content, key = .text content
  distinct : entries.Distinct

theorem IsNamed.set {entries : Entries} (named : entries.IsNamed) (key : String) (value : Value) :
    (entries.set key value).IsNamed where
  textual := by
    intro name member
    obtain kept | ⟨-, added⟩ := keys_assign entries (.text key) value
    · exact named.textual name (kept ▸ member)
    · rw [Entries.set, added, List.mem_append, List.mem_singleton] at member
      obtain old | rfl := member
      · exact named.textual name old
      · exact ⟨key, rfl⟩
  distinct := named.distinct.assign (.text key) value

end Entries

/-! ## What a descriptor says of a node -/

/-- The keys that the type, the children, the tag and the namespace have for themselves. -/
def DescriptorKeys.reserved (keys : DescriptorKeys) : List String :=
  [keys.type, keys.children, keys.tag, keys.space]

/-- No attribute of a node is kept under a reserved key. -/
def MarkupNode.IsUnreserved (mapping : MarkupMapping) (here : MarkupNode) : Prop :=
  ∀ entry ∈ here.attributes,
    mapping.attributeKey entry.1 ∉ DescriptorKeys.standard.reserved

namespace MarkupMapping

variable (mapping : MarkupMapping)

/-- Whether a node is passed through as it is: because the whole conversion is raw, or because
one of the nodes above it is a drawing. -/
def isForced (raw : Bool) (above : List MarkupNode) : Bool :=
  raw || above.any fun outer => mapping.elementType outer.name = drawingType

/-- What the descriptor of a node says, given whether the node is passed through as it is. -/
structure Describes (forced : Bool) (here : MarkupNode) (own : Entries) : Prop where
  type : own.get? DescriptorKeys.standard.type =
    some (.text (if forced then rawType else mapping.elementType here.name))
  space : own.get? DescriptorKeys.standard.space =
    if forced = true ∨ mapping.elementType here.name = drawingType then
      some (.text drawingSpace)
    else none
  tag : own.get? DescriptorKeys.standard.tag =
    if forced = true ∨ mapping.elementType here.name = rawType then some (.text here.name)
    else none
  text : own.get? DescriptorKeys.standard.text =
    ((properText here.text).map Value.text).or
      (mapping.lastUnder? here.attributes DescriptorKeys.standard.text)
  others : ∀ key ∉ DescriptorKeys.standard.reserved, key ≠ DescriptorKeys.standard.text →
    own.get? key = mapping.lastUnder? here.attributes key
  children : ∃ items, own.get? DescriptorKeys.standard.children = some (.list items) ∧
    items.length = here.properChildren.length
  named : own.IsNamed

/-- A descriptor has the shape of a node, and says at each path what is to be said of the node
there. -/
def Mirrors (raw : Bool) (root : MarkupNode) (descriptor : Entries) : Prop :=
  ∀ path, Option.Rel
    (fun found own => mapping.Describes (mapping.isForced raw found.1) found.2 own)
    (root.locate? path) (descriptor.descriptorAt? path)

/-! ## The own part of a descriptor -/

theorem isNamed_ownEntries (raw : Bool) (name : String) (attributes : Table Value)
    (text : Option String) : (mapping.ownEntries raw name attributes text).IsNamed := by
  have start : Entries.IsNamed (.ofTexts [(DescriptorKeys.standard.children, .list [])]) :=
    ⟨by simp [Entries.keys, Entries.ofTexts], List.pairwise_singleton _ _⟩
  have filling : ∀ (others : Table Value) (entries : Entries), entries.IsNamed →
      (others.foldl (fun sofar entry => sofar.set (mapping.attributeKey entry.1) entry.2)
        entries).IsNamed := by
    intro others
    induction others with
    | nil => exact fun _ named => named
    | cons entry rest inductionHypothesis =>
        exact fun entries named => inductionHypothesis _ (named.set _ entry.2)
  have filled : (mapping.filledEntries raw name attributes).IsNamed := by
    apply filling
    cases raw with
    | false => exact start.set _ _
    | true => exact (start.set _ _).set _ _
  have texted : (textedEntries (mapping.filledEntries raw name attributes) text).IsNamed := by
    unfold textedEntries
    split
    · exact filled.set _ _
    · exact filled
  rw [ownEntries_eq]
  unfold taggedEntries
  split
  · split
    · exact texted.set _ _
    · split
      · exact texted.set _ _
      · exact texted
  · exact texted

/-- The last stage by the type that it finds. -/
theorem get?_taggedEntries_of_type {texted : Entries} {type : String}
    (typed : texted.get? DescriptorKeys.standard.type = some (.text type)) (name key : String) :
    (taggedEntries name texted).get? key =
      if key = DescriptorKeys.standard.tag ∧ type = rawType then some (.text name)
      else if key = DescriptorKeys.standard.space ∧ type = drawingType then
        some (.text drawingSpace)
      else texted.get? key := by
  simp only [taggedEntries, Entries.getOrNull, typed, Option.getD_some]
  have noDrawing : rawType ≠ drawingType := by decide
  by_cases isRaw : type = rawType
  · simp [isRaw, noDrawing, Entries.get?_set]
  · by_cases isDrawing : type = drawingType
    · simp [isDrawing, noDrawing.symm, Entries.get?_set]
    · simp [isRaw, isDrawing]

variable {mapping}

theorem lastUnder?_of_unreserved {here : MarkupNode} (unreserved : here.IsUnreserved mapping)
    {key : String} (reserved : key ∈ DescriptorKeys.standard.reserved) :
    mapping.lastUnder? here.attributes key = none := by
  rw [Option.eq_none_iff_forall_ne_some]
  intro value found
  obtain ⟨entry, member, rfl, -⟩ := mapping.exists_mem_of_lastUnder? found
  exact unreserved entry member reserved

section

variable {here : MarkupNode} (unreserved : here.IsUnreserved mapping) (raw : Bool)

include unreserved

/-- Before the tag is put in, a node keeps what it starts with, its attributes and its
text. -/
theorem get?_textedEntries_of_unreserved (key : String) :
    (textedEntries (mapping.filledEntries raw here.name here.attributes) here.text).get? key =
      if key = DescriptorKeys.standard.text then
        ((properText here.text).map Value.text).or
          (mapping.lastUnder? here.attributes DescriptorKeys.standard.text)
      else if key ∈ DescriptorKeys.standard.reserved then mapping.initialEntry raw here.name key
      else mapping.lastUnder? here.attributes key := by
  rw [get?_textedEntries]
  by_cases isText : key = DescriptorKeys.standard.text
  · rw [if_pos isText, if_pos isText, isText, get?_text_filledEntries]
  · rw [if_neg isText, if_neg isText, get?_filledEntries]
    by_cases reserved : key ∈ DescriptorKeys.standard.reserved
    · rw [if_pos reserved, lastUnder?_of_unreserved unreserved reserved, Option.none_or]
    · have fresh : mapping.initialEntry raw here.name key = none := by
        simp only [DescriptorKeys.reserved, List.mem_cons, not_or] at reserved
        simp [initialEntry, reserved]
      rw [if_neg reserved, fresh, Option.or_none]

/-- Under a reserved key there is what a node starts with. -/
theorem get?_textedEntries_of_reserved {key : String}
    (reserved : key ∈ DescriptorKeys.standard.reserved) :
    (textedEntries (mapping.filledEntries raw here.name here.attributes) here.text).get? key =
      mapping.initialEntry raw here.name key := by
  have isText : key ≠ DescriptorKeys.standard.text := by
    rintro rfl
    exact absurd reserved (by decide)
  rw [get?_textedEntries_of_unreserved unreserved, if_neg isText, if_pos reserved]

theorem get?_type_ownEntries :
    (mapping.ownEntries raw here.name here.attributes here.text).get?
        DescriptorKeys.standard.type = some (.text (mapping.typeUnder raw here.name)) := by
  rw [ownEntries_eq, get?_taggedEntries _ _ (by decide) (by decide),
    get?_textedEntries_of_reserved unreserved raw (by decide)]
  rfl

/-- The own part of a descriptor, whatever list of children it gets afterwards. -/
theorem describes_ownEntries {items : List Value}
    (complete : items.length = here.properChildren.length) :
    mapping.Describes raw here
      ((mapping.ownEntries raw here.name here.attributes here.text).set
        DescriptorKeys.standard.children (.list items)) := by
  have typed : (textedEntries (mapping.filledEntries raw here.name here.attributes)
      here.text).get? DescriptorKeys.standard.type =
        some (.text (mapping.typeUnder raw here.name)) :=
    get?_textedEntries_of_reserved unreserved raw (by decide)
  have inside {key : String} (apart : key ≠ DescriptorKeys.standard.children) :
      ((mapping.ownEntries raw here.name here.attributes here.text).set
          DescriptorKeys.standard.children (.list items)).get? key =
        (taggedEntries here.name (textedEntries
          (mapping.filledEntries raw here.name here.attributes) here.text)).get? key := by
    rw [Entries.get?_set, if_neg apart, ownEntries_eq]
  constructor
  case type =>
    rw [Entries.get?_set, if_neg (by decide)]
    exact get?_type_ownEntries unreserved raw
  case space =>
    have noTag : DescriptorKeys.standard.space ≠ DescriptorKeys.standard.tag := by decide
    rw [inside (by decide), get?_taggedEntries_of_type typed,
      get?_textedEntries_of_reserved unreserved raw (by decide)]
    cases raw with
    | false =>
        have unset : mapping.initialEntry false here.name DescriptorKeys.standard.space = none :=
          rfl
        simp [typeUnder, noTag, unset]
    | true =>
        have spaced : mapping.initialEntry true here.name DescriptorKeys.standard.space =
            some (.text drawingSpace) := rfl
        simp [noTag, spaced]
  case tag =>
    have noSpace : DescriptorKeys.standard.tag ≠ DescriptorKeys.standard.space := by decide
    have unset : mapping.initialEntry raw here.name DescriptorKeys.standard.tag = none := by
      cases raw <;> rfl
    rw [inside (by decide), get?_taggedEntries_of_type typed,
      get?_textedEntries_of_reserved unreserved raw (by decide)]
    cases raw <;> simp [typeUnder, noSpace, unset]
  case text =>
    rw [inside (by decide), get?_taggedEntries _ _ (by decide) (by decide),
      get?_textedEntries_of_unreserved unreserved, if_pos rfl]
  case others =>
    intro key free isText
    have apart := free
    simp only [DescriptorKeys.reserved, List.mem_cons, not_or] at apart
    obtain ⟨-, noChildren, noTag, noSpace, -⟩ := apart
    rw [inside noChildren, get?_taggedEntries _ _ noTag noSpace,
      get?_textedEntries_of_unreserved unreserved, if_neg isText, if_neg free]
  case children =>
    exact ⟨items, by rw [Entries.get?_set, if_pos rfl], complete⟩
  case named => exact (isNamed_ownEntries mapping raw _ _ _).set _ _

end

/-! ## From a node to its children -/

/-- With the list of children in its place, a node converts its children and puts them into
the list. -/
theorem toDescriptor_of_unreserved {name : String} {attributes : Table Value}
    {text : Option String} {children : List MarkupNode}
    (unreserved : (MarkupNode.node name attributes text children).IsUnreserved mapping)
    (raw : Bool) :
    mapping.toDescriptor raw (.node name attributes text children) =
      (mapping.childDescriptors (raw || mapping.elementType name = drawingType) children).map
        fun found => (mapping.ownEntries raw name attributes text).set
          DescriptorKeys.standard.children (.list found) := by
  have free : mapping.lastUnder? attributes DescriptorKeys.standard.children = none :=
    lastUnder?_of_unreserved unreserved (by decide)
  have present : (mapping.ownEntries raw name attributes text).get?
      DescriptorKeys.standard.children = some (.list []) := by
    rw [get?_children_ownEntries, free, Option.none_or]
  have handed : rawChildren raw (mapping.ownEntries raw name attributes text) =
      (raw || mapping.elementType name = drawingType) := by
    have typed : (mapping.ownEntries raw name attributes text).get?
        DescriptorKeys.standard.type = some (.text (mapping.typeUnder raw name)) :=
      get?_type_ownEntries unreserved raw
    rw [rawChildren, Entries.getOrNull, typed]
    cases raw <;> rfl
  rw [toDescriptor]
  by_cases childless : children.all MarkupNode.isPseudo = true
  · simp only [childless, if_true, childDescriptors_of_pseudo mapping _ childless, Except.map,
      Entries.set_eq_self present]
  · simp only [childless, Entries.getOrNull, present, Option.getD_some, handed, List.nil_append]
    rfl

/-- The flag that a node hands down is what the path says: below a drawing the conversion is
raw. -/
theorem isForced_cons (raw : Bool) (here : MarkupNode) (above : List MarkupNode) :
    mapping.isForced raw (here :: above) =
      mapping.isForced (raw || mapping.elementType here.name = drawingType) above := by
  simp [isForced, Bool.or_assoc]

theorem rel_getElem?_of_forall₂ {α β : Type} {relation : α → β → Prop} {items : List α}
    {others : List β} (related : List.Forall₂ relation items others) (position : Nat) :
    Option.Rel relation items[position]? others[position]? := by
  induction related generalizing position with
  | nil => exact .none
  | cons first _ inductionHypothesis =>
      cases position with
      | zero => exact .some first
      | succ position => exact inductionHypothesis position

/-- A descriptor that describes a node mirrors it if those in its list of children mirror the
children. -/
theorem mirrors_node {raw : Bool} {here : MarkupNode} {own : Entries} {found : List Entries}
    (describes : mapping.Describes raw here own)
    (listed : own.get? DescriptorKeys.standard.children = some (.list (found.map Value.map)))
    (mirrored : List.Forall₂
      (mapping.Mirrors (raw || mapping.elementType here.name = drawingType))
      here.properChildren found) : mapping.Mirrors raw here own := by
  have below (position : Nat) : own.childDescriptor? position = found[position]? := by
    simp only [Entries.childDescriptor?, listed, List.getElem?_map]
    cases found[position]? <;> rfl
  intro path
  cases path with
  | nil => exact .some (by simpa [isForced] using describes)
  | cons position path =>
      rw [MarkupNode.locate?, Entries.descriptorAt?, below]
      have related := rel_getElem?_of_forall₂ mirrored position
      generalize here.properChildren[position]? = child, found[position]? = inner at related ⊢
      cases related with
      | none => exact .none
      | some mirrors =>
          have further := mirrors path
          simp only [Option.bind_some]
          generalize MarkupNode.locate? _ path = located, Entries.descriptorAt? _ path = last
            at further ⊢
          cases further with
          | none => exact .none
          | some describes =>
              -- Seen from the root, the node itself is the first one above.
              rw [← isForced_cons] at describes
              exact .some describes

mutual

/-- A node whose attributes are under keys of their own is converted, and its descriptor
mirrors it. -/
theorem mirrors_toDescriptor : ∀ (root : MarkupNode) (raw : Bool),
    (∀ inner, root.Contains inner → inner.IsUnreserved mapping) →
      ∃ descriptor, mapping.toDescriptor raw root = .ok descriptor ∧
        mapping.Mirrors raw root descriptor
  | .node name attributes text children, raw, unreserved => by
    have ownUnreserved := unreserved _ (.self _)
    obtain ⟨found, converted, mirrored⟩ := mirrors_childDescriptors children
      (raw || mapping.elementType name = drawingType) fun child member proper inner contained =>
        unreserved inner (.child member proper contained)
    refine ⟨_, by rw [toDescriptor_of_unreserved ownUnreserved, converted]; rfl, ?_⟩
    have complete : (found.map Value.map).length =
        (MarkupNode.node name attributes text children).properChildren.length := by
      rw [List.length_map, ← mirrored.length_eq]
      rfl
    exact mirrors_node (describes_ownEntries ownUnreserved raw complete)
      (by rw [Entries.get?_set, if_pos rfl]) mirrored

theorem mirrors_childDescriptors : ∀ (children : List MarkupNode) (raw : Bool),
    (∀ child ∈ children, child.isPseudo = false →
        ∀ inner, child.Contains inner → inner.IsUnreserved mapping) →
      ∃ found : List Entries,
        mapping.childDescriptors raw children = .ok (found.map Value.map) ∧
          List.Forall₂ (mapping.Mirrors raw)
            (children.filter fun child => !child.isPseudo) found
  | [], _, _ => ⟨[], rfl, .nil⟩
  | child :: rest, raw, unreserved => by
    obtain ⟨others, converted, mirrored⟩ := mirrors_childDescriptors rest raw
      fun other member => unreserved other (List.mem_cons_of_mem child member)
    rw [childDescriptors]
    cases pseudo : child.isPseudo with
    | true => exact ⟨others, converted, by simpa [pseudo] using mirrored⟩
    | false =>
        obtain ⟨own, first, mirrors⟩ := mirrors_toDescriptor child raw
          (unreserved child List.mem_cons_self pseudo)
        refine ⟨own :: others, by simp [first, converted, Except.map], ?_⟩
        simpa [pseudo] using ⟨mirrors, mirrored⟩

end

/-- Whatever the tree and the mapping are: if no attribute is kept under a reserved key, a node
is converted, and its descriptor has a descriptor at each path at which there is a node, and at
no other path.  What it says depends on the node and on the nodes above it. -/
theorem toDescriptor_describes (mapping : MarkupMapping) (raw : Bool) (root : MarkupNode)
    (unreserved : ∀ path above inner, root.locate? path = some (above, inner) →
      inner.IsUnreserved mapping) :
    ∃ descriptor, mapping.toDescriptor raw root = .ok descriptor ∧
      ∀ path, Option.Rel
        (fun found own => mapping.Describes (mapping.isForced raw found.1) found.2 own)
        (root.locate? path) (descriptor.descriptorAt? path) := by
  have contained : ∀ inner, root.Contains inner → inner.IsUnreserved mapping := by
    intro inner contained
    obtain ⟨path, above, located⟩ := MarkupNode.contains_iff_exists_locate?.mp contained
    exact unreserved path above inner located
  exact mirrors_toDescriptor root raw contained

/-- A drawing in a drawing, a comment and a node beside them, and attributes under the keys of
the identifier and of the text. -/
def gallery : MarkupNode :=
  .node "div" [("id", .text "a"), ("text", .text "b")] (some " ")
    [.node "svg" [] (some " c ") [.node "svg" [("d", .text "1")] none []], .comment,
      .node "em" [] none []]

/-- The outer drawing is a drawing, the inner one is passed through, and the node beside them
is of its own type. -/
theorem toDescriptor_describes_gallery :
    (∀ path above inner, gallery.locate? path = some (above, inner) →
        inner.IsUnreserved standard) ∧
      ∃ descriptor, standard.toDescriptor false gallery = .ok descriptor ∧
        ∀ place ∈ [([], "view"), ([0], "svg"), ([0, 0], "xhtml"), ([1], "em")],
          (descriptor.descriptorAt? place.1).bind (·.get? DescriptorKeys.standard.type) =
            some (.text place.2) := by
  have unreserved : ∀ path above inner, gallery.locate? path = some (above, inner) →
      inner.IsUnreserved standard := by
    intro path above inner located
    have contained := MarkupNode.contains_iff_exists_locate?.mpr ⟨path, above, located⟩
    simp only [gallery, MarkupNode.comment, MarkupNode.contains_node_iff, List.mem_cons,
      List.not_mem_nil, or_false, exists_eq_or_imp, exists_eq_left, false_and, exists_false]
      at contained
    obtain rfl | ⟨-, rfl | ⟨-, rfl⟩⟩ | ⟨-, rfl⟩ | ⟨-, rfl⟩ := contained
    all_goals
      unfold MarkupNode.IsUnreserved
      decide +kernel
  obtain ⟨descriptor, converted, described⟩ :=
    toDescriptor_describes standard false gallery unreserved
  refine ⟨unreserved, descriptor, converted, ?_⟩
  have typed (path : List Nat) (type : String)
      (located : (gallery.locate? path).map (fun found =>
        if standard.isForced false found.1 then rawType
        else standard.elementType found.2.name) = some type) :
      (descriptor.descriptorAt? path).bind (·.get? DescriptorKeys.standard.type) =
        some (.text type) := by
    obtain ⟨⟨above, inner⟩, found, rfl⟩ := Option.map_eq_some_iff.mp located
    have related := described path
    rw [found] at related
    generalize descriptor.descriptorAt? path = last at related ⊢
    cases related with
    | some describes => exact describes.type
  simp only [List.forall_mem_cons]
  exact ⟨typed [] "view" (by decide +kernel), typed [0] "svg" (by decide +kernel),
    typed [0, 0] "xhtml" (by decide +kernel), typed [1] "em" (by decide +kernel), by simp⟩

end MarkupMapping

end CommandHost
