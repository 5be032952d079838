import CommandHost.Error.Fault
import CommandHost.Proofs.Markup.Own

/-!
# Outcomes of converting markup

Converting a markup text gives a descriptor or refuses the text, unless an attribute is
kept under the key of the children and the node has children.  The list of children is then
a text, to which nothing can be appended.  The main statement says that this is the only
way in which converting can fail otherwise than by refusing the text.
-/

namespace CommandHost

/-! ## Nodes that stand in the way of their children -/

namespace MarkupNode

/-- The nodes that have a descriptor inside that of a node: the node itself, and what its
children contain that are no pseudo nodes. -/
inductive Contains : MarkupNode → MarkupNode → Prop where
  | self (node : MarkupNode) : Contains node node
  | child {name : String} {attributes : Table Value} {text : Option String}
      {children : List MarkupNode} {child inner : MarkupNode} (member : child ∈ children)
      (proper : child.isPseudo = false) (inside : child.Contains inner) :
      Contains (.node name attributes text children) inner

theorem contains_node_iff {name : String} {attributes : Table Value} {text : Option String}
    {children : List MarkupNode} {inner : MarkupNode} :
    (node name attributes text children).Contains inner ↔
      inner = node name attributes text children ∨
        ∃ child ∈ children, child.isPseudo = false ∧ child.Contains inner := by
  constructor
  · intro contained
    cases contained with
    | self => exact .inl rfl
    | child member proper inside => exact .inr ⟨_, member, proper, inside⟩
  · rintro (rfl | ⟨child, member, proper, inside⟩)
    · exact .self _
    · exact .child member proper inside

/-- All attributes are texts. -/
def IsTextual : MarkupNode → Prop
  | node _ attributes _ _ => ∀ entry ∈ attributes, ∃ content, entry.2 = .text content

/-- An attribute takes the place of the list of children, although there are children. -/
def IsObstructed (mapping : MarkupMapping) : MarkupNode → Prop
  | node _ attributes _ children =>
    (∃ entry ∈ attributes,
        mapping.attributeKey entry.1 = DescriptorKeys.standard.children) ∧
      ∃ child ∈ children, child.isPseudo = false

end MarkupNode

namespace MarkupMapping

variable (mapping : MarkupMapping)

/-! ## Converting a node -/

/-- What converting came to: a result if no node is obstructed, and otherwise the failure to
append to a text. -/
def Outcome {α : Type} (obstructed : Prop) (result : Except IllegalUse α) : Prop :=
  (¬ obstructed ∧ ∃ value, result = .ok value) ∨
    (obstructed ∧ result = .error (.missingAttribute "str" "append"))

theorem Outcome.map {α β : Type} {obstructed : Prop} {result : Except IllegalUse α}
    (outcome : Outcome obstructed result) (change : α → β) :
    Outcome obstructed (result.map change) := by
  obtain ⟨free, value, rfl⟩ | ⟨obstructs, rfl⟩ := outcome
  · exact .inl ⟨free, change value, rfl⟩
  · exact .inr ⟨obstructs, rfl⟩

theorem Outcome.congr {α : Type} {obstructed others : Prop} {result : Except IllegalUse α}
    (outcome : Outcome obstructed result) (same : obstructed ↔ others) :
    Outcome others result :=
  propext same ▸ outcome

variable {mapping}

/-- The node that has the attributes is where its children are put, or fails to be. -/
theorem outcome_node {raw : Bool} {name : String} {attributes : Table Value}
    {text : Option String} {children : List MarkupNode}
    (textual : (MarkupNode.node name attributes text children).IsTextual)
    (inside : ∀ raw, Outcome (∃ child ∈ children, child.isPseudo = false ∧
      ∃ inner, child.Contains inner ∧ inner.IsObstructed mapping)
        (childDescriptors mapping raw children)) :
    Outcome (∃ inner, (MarkupNode.node name attributes text children).Contains inner ∧
        inner.IsObstructed mapping)
      (toDescriptor mapping raw (.node name attributes text children)) := by
  rw [toDescriptor]
  by_cases childless : children.all MarkupNode.isPseudo = true
  · -- Without children there is nothing to append.
    refine .inl ⟨?_, by simp [childless]⟩
    have noChild : ∀ child ∈ children, child.isPseudo ≠ false := by
      simpa using childless
    rintro ⟨inner, contained, obstructed⟩
    obtain rfl | ⟨child, member, proper, -⟩ := MarkupNode.contains_node_iff.mp contained
    · obtain ⟨child, member, proper⟩ := obstructed.2
      exact noChild child member proper
    · exact noChild child member proper
  · obtain ⟨child, member, proper⟩ :
        ∃ child ∈ children, child.isPseudo = false := by
      simpa using childless
    simp only [childless, Bool.false_eq_true, if_false]
    have present := mapping.get?_children_ownEntries raw name attributes text
    cases taken : mapping.lastUnder? attributes DescriptorKeys.standard.children with
    | some value =>
        -- The attribute is a text.
        obtain ⟨entry, inAttributes, key, rfl⟩ := mapping.exists_mem_of_lastUnder? taken
        obtain ⟨content, isText⟩ := textual entry inAttributes
        refine .inr ⟨⟨_, .self _, ⟨entry, inAttributes, key⟩, child, member, proper⟩, ?_⟩
        rw [taken, Option.some_or] at present
        simp [Entries.getOrNull, present, isText, Value.kindName]
    | none =>
        -- The list of children is there, so all depends on the children.
        rw [taken, Option.none_or] at present
        have unobstructed :
            ¬ (MarkupNode.node name attributes text children).IsObstructed mapping := by
          rintro ⟨someUnder, -⟩
          rw [← isSome_lastUnder?_iff, taken] at someUnder
          simp at someUnder
        simp only [Entries.getOrNull, present, Option.getD_some]
        refine ((inside _).map _).congr ?_
        constructor
        · rintro ⟨child, member, proper, inner, contained, obstructed⟩
          exact ⟨inner, .child member proper contained, obstructed⟩
        · rintro ⟨inner, contained, obstructed⟩
          obtain rfl | ⟨child, member, proper, below⟩ :=
            MarkupNode.contains_node_iff.mp contained
          · exact absurd obstructed unobstructed
          · exact ⟨child, member, proper, inner, below, obstructed⟩

mutual

/-- Converting a node whose attributes are texts fails exactly if a node in it is
obstructed. -/
theorem outcome_toDescriptor : ∀ (node : MarkupNode) (raw : Bool),
    (∀ inner, node.Contains inner → inner.IsTextual) →
      Outcome (∃ inner, node.Contains inner ∧ inner.IsObstructed mapping)
        (toDescriptor mapping raw node)
  | .node _ _ _ children, _, textual =>
    outcome_node (textual _ (.self _)) fun raw =>
      outcome_childDescriptors children raw fun _ member proper inner contained =>
        textual inner (.child member proper contained)

/-- Converting nodes fails exactly if a node in one of them is obstructed. -/
theorem outcome_childDescriptors : ∀ (children : List MarkupNode) (raw : Bool),
    (∀ child ∈ children, child.isPseudo = false →
        ∀ inner, child.Contains inner → inner.IsTextual) →
      Outcome (∃ child ∈ children, child.isPseudo = false ∧
          ∃ inner, child.Contains inner ∧ inner.IsObstructed mapping)
        (childDescriptors mapping raw children)
  | [], raw, _ => .inl ⟨by simp, [], rfl⟩
  | child :: rest, raw, textual => by
    have others := outcome_childDescriptors rest raw fun other member =>
      textual other (List.mem_cons_of_mem child member)
    rw [childDescriptors]
    cases pseudo : child.isPseudo with
    | true => exact others.congr (by simp [pseudo])
    | false =>
        have first := outcome_toDescriptor child raw (textual child List.mem_cons_self pseudo)
        simp only [Bool.false_eq_true, if_false]
        obtain ⟨free, found, converted⟩ | ⟨obstructed, failed⟩ := first
        · rw [converted]
          exact (others.map _).congr (by simp [pseudo, free])
        · rw [failed]
          exact .inr ⟨⟨child, List.mem_cons_self, pseudo, obstructed⟩, rfl⟩

end

end MarkupMapping

/-! ## Converting a text -/

/-- What a table holds after a value was put into it. -/
theorem Table.mem_put {α : Type} {table : Table α} {key : String} {value : α}
    {entry : String × α} (member : entry ∈ table.put key value) :
    entry = (key, value) ∨ entry ∈ table := by
  induction table with
  | nil => exact .inl (by simpa [put] using member)
  | cons first rest inductionHypothesis =>
      obtain ⟨other, old⟩ := first
      by_cases same : other = key
      · rw [put, if_pos same] at member
        exact (List.mem_cons.mp member).imp_right (List.mem_cons_of_mem _)
      · rw [put, if_neg same] at member
        obtain rfl | later := List.mem_cons.mp member
        · exact .inr List.mem_cons_self
        · exact (inductionHypothesis later).imp_right (List.mem_cons_of_mem _)

namespace Xml.Node

theorem isTextual_localAttributes {name : String} (attributes : List (Name × String))
    {text : Option String} {children : List MarkupNode} :
    (MarkupNode.node name
      (MarkupNode.localAttributes
        (attributes.map fun entry => (entry.1.localName, Value.text entry.2)))
      text children).IsTextual := by
  have kept : ∀ (others table : Table Value),
      (∀ entry ∈ table, ∃ content, entry.2 = .text content) →
      (∀ entry ∈ others, ∃ content, entry.2 = .text content) →
        ∀ entry ∈ Table.putAll table others, ∃ content, entry.2 = .text content := by
    intro others
    induction others with
    | nil => exact fun table texts _ => texts
    | cons other rest inductionHypothesis =>
        intro table texts otherTexts
        refine inductionHypothesis _ ?_ fun entry member =>
          otherTexts entry (List.mem_cons_of_mem other member)
        intro entry member
        obtain rfl | old := Table.mem_put member
        · exact otherTexts other List.mem_cons_self
        · exact texts entry old
  refine kept _ [] (by simp) fun entry member => ?_
  obtain ⟨whole, inAll, rfl⟩ := List.mem_map.mp member
  obtain ⟨written, -, rfl⟩ := List.mem_map.mp inAll
  exact ⟨written.2, rfl⟩

mutual

/-- The attributes of an element are texts. -/
theorem isTextual_of_toMarkup? : ∀ (root : Node) {node inner : MarkupNode},
    root.toMarkup? = some node → node.Contains inner → inner.IsTextual
  | .element name attributes content, node, inner, converted, contained => by
    rw [toMarkup?, Option.some.injEq] at converted
    subst converted
    obtain rfl | ⟨child, member, -, below⟩ := MarkupNode.contains_node_iff.mp contained
    · exact isTextual_localAttributes attributes
    · exact isTextual_of_childNodes content member below
  | .comment _, node, inner, converted, contained => by
    rw [toMarkup?, Option.some.injEq] at converted
    subst converted
    obtain rfl | ⟨child, member, -⟩ := MarkupNode.contains_node_iff.mp contained
    · simp [MarkupNode.IsTextual]
    · simp at member
  | .data _, node, inner, converted, _ => by simp [toMarkup?] at converted

theorem isTextual_of_childNodes : ∀ (content : List Node) {child inner : MarkupNode},
    child ∈ childNodes content → child.Contains inner → inner.IsTextual
  | [], child, inner, member, _ => by simp [childNodes] at member
  | first :: rest, child, inner, member, contained => by
    rw [childNodes] at member
    cases converted : first.toMarkup? with
    | none =>
        rw [converted] at member
        exact isTextual_of_childNodes rest member contained
    | some found =>
        rw [converted] at member
        obtain rfl | later := List.mem_cons.mp member
        · exact isTextual_of_toMarkup? first converted contained
        · exact isTextual_of_childNodes rest later contained

end

end Xml.Node

/-- The outcomes that converting a markup text should have: a descriptor, or an error of the
class for texts that cannot be read. -/
def MarkupDisciplined : Except MarkupFault Entries → Prop
  | .ok _ => True
  | .error fault => (Fault.markup fault).className = "ParsingError"

instance : (outcome : Except MarkupFault Entries) → Decidable (MarkupDisciplined outcome)
  | .ok _ => .isTrue trivial
  | .error fault => inferInstanceAs (Decidable ((Fault.markup fault).className = "ParsingError"))

theorem disciplined_malformed (cause : Xml.Fault) :
    MarkupDisciplined (.error (.malformed cause)) := rfl

theorem not_disciplined_illegal (cause : IllegalUse) :
    ¬ MarkupDisciplined (.error (.illegal cause)) := by
  change ¬ cause.className = "ParsingError"
  cases cause <;> simp [IllegalUse.className]

/-- An attribute named `_children` on a node that has children. -/
def MarkupNode.IsMisnamed : MarkupNode → Prop
  | node _ attributes _ children =>
    (∃ entry ∈ attributes, entry.1 = "_children") ∧ ∃ child ∈ children, child.isPseudo = false

namespace MarkupMapping

/-- The standard mapping renames one attribute, and not to the key of the children. -/
theorem attributeKey_standard_eq_children_iff {name : String} :
    standard.attributeKey name = DescriptorKeys.standard.children ↔ name = "_children" := by
  by_cases id : name = "id"
  · subst id
    decide
  · have same : standard.attributeKey name = name := by
      simp [attributeKey, find, standard, Table.get?, Ne.symm id]
    rw [same]
    rfl

theorem isObstructed_standard_iff {node : MarkupNode} :
    node.IsObstructed standard ↔ node.IsMisnamed := by
  cases node
  simp only [MarkupNode.IsObstructed, MarkupNode.IsMisnamed,
    attributeKey_standard_eq_children_iff]

/-- Whatever the names of its elements and attributes are, a markup text is converted under
the standard mapping or refused, and a blank text has the empty descriptor; except for a
text with an attribute named `_children` on an element that has children, which is an
attempt to append to a text. -/
theorem fromText_disciplined_iff (text : Option String) :
    (Text.isBlankText (text.getD "").toList = true → standard.fromText text = .ok []) ∧
      (MarkupDisciplined (standard.fromText text) ↔
        ¬ (Text.isBlankText (text.getD "").toList = false ∧
          ∃ root node inner, Xml.parse (text.getD "") = .ok root ∧
            root.toMarkup? = some node ∧ node.Contains inner ∧ inner.IsMisnamed)) ∧
      ∀ cause, standard.fromText text = .error (.illegal cause) →
        cause = .missingAttribute "str" "append" := by
  cases blank : Text.isBlankText (text.getD "").toList with
  | true => simp [fromText_of_blank standard blank, MarkupDisciplined]
  | false =>
      rw [fromText_of_solid standard blank]
      cases parsed : Xml.parse (text.getD "") with
      | error cause => simp [disciplined_malformed]
      | ok root =>
          cases converted : root.toMarkup? with
          | none => simp [MarkupDisciplined, converted]
          | some node =>
              have outcome : Outcome _ (standard.toDescriptor false node) :=
                outcome_toDescriptor node false fun inner =>
                  Xml.Node.isTextual_of_toMarkup? root converted
              simp only [isObstructed_standard_iff] at outcome
              obtain ⟨free, entries, described⟩ | ⟨obstructed, failed⟩ := outcome
              · simpa [described, Except.mapError, MarkupDisciplined, converted] using free
              · simpa [failed, Except.mapError, not_disciplined_illegal, converted]
                  using obstructed

/-- Neither a descriptor nor a refusal comes of an attribute in the place of the children. -/
theorem misnamed_not_disciplined :
    ¬ MarkupDisciplined (standard.fromText (some "<a _children=\"x\"><b/></a>")) := by
  decide +kernel

end MarkupMapping

end CommandHost
