import CommandHost.Markup.Descriptor
import Mathlib.Data.List.Induction

/-!
# What a node puts into its descriptor

The own part of a descriptor is built in three stages: the type and the attributes, the
text, and the tag.  Each stage is a function of its own here, with one equation that says
what it keeps under a key.
-/

namespace CommandHost.MarkupMapping

variable (mapping : MarkupMapping)

/-- The stage of the type and the attributes. -/
def filledEntries (raw : Bool) (name : String) (attributes : Table Value) : Entries :=
  let keys := DescriptorKeys.standard
  let start : Entries := .ofTexts [(keys.children, .list [])]
  attributes.foldl (fun sofar entry => sofar.set (mapping.attributeKey entry.1) entry.2)
    (if raw then (start.set keys.type (.text rawType)).set keys.space (.text drawingSpace)
    else start.set keys.type (.text (mapping.elementType name)))

/-- The stage of the text, which is left out if nothing but blanks is there. -/
def textedEntries (filled : Entries) (text : Option String) : Entries :=
  match properText text with
  | some content => filled.set DescriptorKeys.standard.text (.text content)
  | none => filled

/-- The stage of the tag. -/
def taggedEntries (name : String) (texted : Entries) : Entries :=
  match texted.getOrNull DescriptorKeys.standard.type with
  | .text content =>
    if content = rawType then texted.set DescriptorKeys.standard.tag (.text name)
    else if content = drawingType then
      texted.set DescriptorKeys.standard.space (.text drawingSpace)
    else texted
  | _ => texted

theorem ownEntries_eq (raw : Bool) (name : String) (attributes : Table Value)
    (text : Option String) :
    mapping.ownEntries raw name attributes text =
      taggedEntries name (textedEntries (mapping.filledEntries raw name attributes) text) :=
  rfl

/-! ## What stands under a key -/

/-- The value of the last attribute that is kept under a key. -/
def lastUnder? (attributes : Table Value) (key : String) : Option Value :=
  (attributes.reverse.find? fun entry => mapping.attributeKey entry.1 = key).map Prod.snd

theorem isSome_lastUnder?_iff {attributes : Table Value} {key : String} :
    (mapping.lastUnder? attributes key).isSome = true ↔
      ∃ entry ∈ attributes, mapping.attributeKey entry.1 = key := by
  simp [lastUnder?, List.find?_isSome]

theorem exists_mem_of_lastUnder? {attributes : Table Value} {key : String} {value : Value}
    (found : mapping.lastUnder? attributes key = some value) :
    ∃ entry ∈ attributes, mapping.attributeKey entry.1 = key ∧ entry.2 = value := by
  obtain ⟨entry, here, rfl⟩ := Option.map_eq_some_iff.mp found
  exact ⟨entry, by simpa using List.mem_of_find?_eq_some here,
    by simpa using List.find?_some here, rfl⟩

/-- Attributes that are filled in one after another: the last one under a key counts. -/
theorem get?_foldl_set (attributes : Table Value) (entries : Entries) (key : String) :
    (attributes.foldl (fun sofar entry => sofar.set (mapping.attributeKey entry.1) entry.2)
      entries).get? key = (mapping.lastUnder? attributes key).or (entries.get? key) := by
  induction attributes using List.reverseRecOn with
  | nil => rfl
  | append_singleton others entry inductionHypothesis =>
      rw [List.foldl_append, List.foldl_cons, List.foldl_nil, Entries.get?_set,
        inductionHypothesis]
      by_cases same : mapping.attributeKey entry.1 = key
      · simp [lastUnder?, same]
      · simp [lastUnder?, same, Ne.symm same]

/-- The type of a node, given whether it is passed through as it is. -/
def typeUnder (raw : Bool) (name : String) : String :=
  if raw then rawType else mapping.elementType name

/-- What stands under a key when nothing but the type is known. -/
def initialEntry (raw : Bool) (name key : String) : Option Value :=
  if key = DescriptorKeys.standard.type then some (.text (mapping.typeUnder raw name))
  else if key = DescriptorKeys.standard.children then some (.list [])
  else if raw = true ∧ key = DescriptorKeys.standard.space then some (.text drawingSpace)
  else none

theorem get?_filledEntries (raw : Bool) (name : String) (attributes : Table Value)
    (key : String) :
    (mapping.filledEntries raw name attributes).get? key =
      (mapping.lastUnder? attributes key).or (mapping.initialEntry raw name key) := by
  have start : Entries.get? (.ofTexts [(DescriptorKeys.standard.children, .list [])]) key =
      if key = DescriptorKeys.standard.children then some (.list []) else none :=
    Entries.get?_set [] DescriptorKeys.standard.children key (.list [])
  rw [filledEntries, get?_foldl_set]
  congr 1
  cases raw with
  | false =>
      simp only [Bool.false_eq_true, if_false, Entries.get?_set, start, initialEntry, typeUnder,
        false_and]
  | true =>
      by_cases space : key = DescriptorKeys.standard.space
      · subst space
        rfl
      · simp only [if_true, Entries.get?_set, start, initialEntry, typeUnder, space, and_false,
          if_false]

theorem get?_text_filledEntries (raw : Bool) (name : String) (attributes : Table Value) :
    (mapping.filledEntries raw name attributes).get? DescriptorKeys.standard.text =
      mapping.lastUnder? attributes DescriptorKeys.standard.text := by
  have unset : mapping.initialEntry raw name DescriptorKeys.standard.text = none := by
    cases raw <;> rfl
  rw [get?_filledEntries, unset, Option.or_none]

theorem get?_textedEntries (filled : Entries) (text : Option String) (key : String) :
    (textedEntries filled text).get? key =
      if key = DescriptorKeys.standard.text then
        ((properText text).map Value.text).or (filled.get? key)
      else filled.get? key := by
  unfold textedEntries
  cases properText text with
  | none => simp
  | some content => by_cases same : key = DescriptorKeys.standard.text <;>
      simp [Entries.get?_set, same]

/-- The last stage only touches the keys of the tag and of the namespace. -/
theorem get?_taggedEntries (name : String) (texted : Entries) {key : String}
    (noTag : key ≠ DescriptorKeys.standard.tag) (noSpace : key ≠ DescriptorKeys.standard.space) :
    (taggedEntries name texted).get? key = texted.get? key := by
  unfold taggedEntries
  split
  · split
    · rw [Entries.get?_set, if_neg noTag]
    · split
      · rw [Entries.get?_set, if_neg noSpace]
      · rfl
  · rfl

/-- Under the key of the children a node keeps the empty list, unless an attribute takes
its place. -/
theorem get?_children_ownEntries (raw : Bool) (name : String) (attributes : Table Value)
    (text : Option String) :
    (mapping.ownEntries raw name attributes text).get? DescriptorKeys.standard.children =
      (mapping.lastUnder? attributes DescriptorKeys.standard.children).or
        (some (.list [])) := by
  rw [ownEntries_eq, get?_taggedEntries _ _ (by decide) (by decide), get?_textedEntries,
    if_neg (by decide), get?_filledEntries]
  rfl

/-! ## Descriptors of children -/

theorem childDescriptors_cons {raw : Bool} {child : MarkupNode} (proper : child.isPseudo = false)
    (rest : List MarkupNode) :
    childDescriptors mapping raw (child :: rest) =
      toDescriptor mapping raw child >>= fun found =>
        (childDescriptors mapping raw rest).map fun others => .map found :: others := by
  rw [childDescriptors, proper, if_neg Bool.false_ne_true]
  cases toDescriptor mapping raw child <;> rfl

theorem childDescriptors_pseudo_append (raw : Bool) {pseudo : List MarkupNode}
    (allPseudo : ∀ child ∈ pseudo, child.isPseudo = true) (rest : List MarkupNode) :
    childDescriptors mapping raw (pseudo ++ rest) = childDescriptors mapping raw rest := by
  induction pseudo with
  | nil => rfl
  | cons child pseudo inductionHypothesis =>
      rw [List.forall_mem_cons] at allPseudo
      rw [List.cons_append, childDescriptors, if_pos allPseudo.1,
        inductionHypothesis allPseudo.2]

theorem childDescriptors_of_pseudo (raw : Bool) {pseudo : List MarkupNode}
    (allPseudo : pseudo.all MarkupNode.isPseudo = true) :
    childDescriptors mapping raw pseudo = .ok [] := by
  have alone := mapping.childDescriptors_pseudo_append raw (List.all_eq_true.mp allPseudo) []
  rwa [List.append_nil] at alone

/-! ## Blank and solid texts -/

theorem fromText_of_blank {text : Option String}
    (blank : Text.isBlankText (text.getD "").toList = true) : mapping.fromText text = .ok [] := by
  simp [fromText, blank]

theorem fromText_of_solid {text : Option String}
    (solid : Text.isBlankText (text.getD "").toList = false) :
    mapping.fromText text =
      match Xml.parse (text.getD "") with
      | .error cause => .error (.malformed cause)
      | .ok root =>
        match root.toMarkup? with
        | some node => (mapping.toDescriptor false node).mapError .illegal
        | none => .ok [] := by
  simp only [fromText, solid]
  rfl

end CommandHost.MarkupMapping
