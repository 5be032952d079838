import CommandHost.Proofs.Markup.Own
import CommandHost.Proofs.Xml.Insertion

/-!
# Comments and descriptors

A comment in the content of an element has no descriptor.  But the text of an element is read
in front of its first child, and a comment is a child: with a comment in the midst of the text
the part behind it is lost.  The main statement says exactly which comments leave the
descriptor of a markup text as it is.
-/

namespace CommandHost

/-! ## The text of a node -/

namespace MarkupMapping

variable (mapping : MarkupMapping)

/-- The text of a node as it is kept: the characters in front of the first child. -/
def nodeText (text : List Char) : Option String :=
  if text.isEmpty then none else some (String.ofList text)

theorem properText_nodeText (text : List Char) :
    properText (nodeText text) =
      if Text.isBlankText text then none else some (String.ofList (Text.strip text)) := by
  have proper : ∀ text : List Char, properText (some (String.ofList text)) =
      if Text.isBlankText text then none else some (String.ofList (Text.strip text)) := by
    intro text
    have blank : String.ofList (Text.strip text) = "" ↔ Text.isBlankText text = true := by
      rw [← Text.strip_eq_nil_iff]
      change String.ofList (Text.strip text) = String.ofList [] ↔ _
      exact String.ofList_inj
    simp only [properText, Text.stripString, String.toList_ofList, Option.map_some,
      Option.filter_some, ne_eq, blank]
    cases Text.isBlankText text <;> rfl
  cases text with
  | nil => rfl
  | cons c rest => exact proper (c :: rest)

/-- What a node keeps under the key of the text. -/
def textEntry (attributes : Table Value) (text : List Char) : Option Value :=
  ((properText (nodeText text)).map Value.text).or
    (mapping.lastUnder? attributes DescriptorKeys.standard.text)

/-- Cutting off the end of a text shows, unless the end is blank or an attribute stands in for
it. -/
theorem textEntry_append_iff {attributes : Table Value} {text after : List Char} :
    mapping.textEntry attributes text = mapping.textEntry attributes (text ++ after) ↔
      Text.isBlankText after = true ∨
        (Text.isBlankText text = true ∧
          mapping.lastUnder? attributes DescriptorKeys.standard.text =
            some (.text (String.ofList (Text.strip after)))) := by
  have whole : Text.isBlankText (text ++ after) =
      (Text.isBlankText text && Text.isBlankText after) :=
    List.all_append
  rw [textEntry, textEntry, properText_nodeText, properText_nodeText, whole]
  cases blankAfter : Text.isBlankText after with
  | true => simp [Text.strip_append_of_blank _ blankAfter]
  | false =>
      cases blank : Text.isBlankText text with
      | true => simp [Text.strip_append_of_blank_left blank]
      | false =>
          have different := Text.strip_append_ne blank blankAfter
          simpa [String.ofList_inj] using different.symm

theorem get?_text_ownEntries (raw : Bool) (name : String) (attributes : Table Value)
    (text : List Char) :
    (mapping.ownEntries raw name attributes (nodeText text)).get?
        DescriptorKeys.standard.text = mapping.textEntry attributes text := by
  rw [ownEntries_eq, get?_taggedEntries _ _ (by decide) (by decide), get?_textedEntries,
    if_pos rfl, get?_text_filledEntries]
  rfl

/-- What a node puts into its descriptor depends on its text only by what is kept under the key
of the text. -/
theorem ownEntries_eq_iff {raw : Bool} {name : String} {attributes : Table Value}
    {text other : List Char} :
    mapping.ownEntries raw name attributes (nodeText text) =
        mapping.ownEntries raw name attributes (nodeText other) ↔
      mapping.textEntry attributes text = mapping.textEntry attributes other := by
  constructor
  · intro same
    rw [← get?_text_ownEntries mapping raw name, same, get?_text_ownEntries]
  · intro same
    rw [ownEntries_eq, ownEntries_eq]
    congr 1
    have filled := mapping.get?_text_filledEntries raw name attributes
    unfold textEntry at same
    unfold textedEntries
    cases proper : properText (nodeText text) <;> cases proper' : properText (nodeText other) <;>
      simp_all [Entries.set_eq_self]

/-- The type does not depend on the text, and so neither does the way in which the children are
passed through. -/
theorem rawChildren_ownEntries (raw : Bool) (name : String) (attributes : Table Value)
    (text other : Option String) :
    rawChildren raw (mapping.ownEntries raw name attributes text) =
      rawChildren raw (mapping.ownEntries raw name attributes other) := by
  have type : ∀ text : Option String,
      (mapping.ownEntries raw name attributes text).get? DescriptorKeys.standard.type =
        (mapping.filledEntries raw name attributes).get? DescriptorKeys.standard.type := by
    intro text
    rw [ownEntries_eq, get?_taggedEntries _ _ (by decide) (by decide), get?_textedEntries,
      if_neg (by decide)]
  simp only [rawChildren, Entries.getOrNull, type]

/-! ## Results that fail alike -/

/-- Two results that are failures for the same cause, or values that are the same exactly if a
condition holds. -/
def Twinned {α : Type} (same : Prop) (result other : Except IllegalUse α) : Prop :=
  (∃ fault, result = .error fault ∧ other = .error fault) ∨
    ∃ value last, result = .ok value ∧ other = .ok last ∧ (value = last ↔ same)

section

variable {α β : Type} {same : Prop} {result other : Except IllegalUse α}

theorem Twinned.refl (result : Except IllegalUse α) : Twinned True result result := by
  cases result with
  | error fault => exact .inl ⟨fault, rfl, rfl⟩
  | ok value => exact .inr ⟨value, value, rfl, rfl, by simp⟩

theorem Twinned.congr (twinned : Twinned same result other) {condition : Prop}
    (equivalent : same ↔ condition) : Twinned condition result other := by
  rwa [← propext equivalent]

theorem Twinned.map (twinned : Twinned same result other) {condition : Prop}
    {change changeOther : α → β}
    (keeps : ∀ {value last}, (value = last ↔ same) →
      (change value = changeOther last ↔ condition)) :
    Twinned condition (result.map change) (other.map changeOther) := by
  obtain ⟨fault, rfl, rfl⟩ | ⟨value, last, rfl, rfl, values⟩ := twinned
  · exact .inl ⟨fault, rfl, rfl⟩
  · exact .inr ⟨_, _, rfl, rfl, keeps values⟩

theorem Twinned.map_injective (twinned : Twinned same result other) {change : α → β}
    (injective : Function.Injective change) :
    Twinned same (result.map change) (other.map change) :=
  twinned.map fun values => injective.eq_iff.trans values

theorem Twinned.mapError_eq_iff (twinned : Twinned same result other) :
    result.mapError MarkupFault.illegal = other.mapError MarkupFault.illegal ↔
      (∃ fault, other.mapError MarkupFault.illegal = .error fault) ∨ same := by
  obtain ⟨fault, rfl, rfl⟩ | ⟨value, last, rfl, rfl, values⟩ := twinned
  · simp [Except.mapError]
  · simp [Except.mapError, values]

end

/-! ## Descriptors of children -/

/-- Children behind others: only what is different has to be compared. -/
theorem twinned_append {raw : Bool} {same : Prop} (before : List MarkupNode)
    {children others : List MarkupNode}
    (twinned : Twinned same (childDescriptors mapping raw children)
      (childDescriptors mapping raw others)) :
    Twinned same (childDescriptors mapping raw (before ++ children))
      (childDescriptors mapping raw (before ++ others)) := by
  induction before with
  | nil => exact twinned
  | cons child before inductionHypothesis =>
      cases pseudo : child.isPseudo with
      | true =>
          rw [List.cons_append, List.cons_append, childDescriptors, childDescriptors,
            if_pos pseudo, if_pos pseudo]
          exact inductionHypothesis
      | false =>
          rw [List.cons_append, List.cons_append, childDescriptors_cons mapping pseudo,
            childDescriptors_cons mapping pseudo]
          cases toDescriptor mapping raw child with
          | error fault => exact .inl ⟨fault, rfl, rfl⟩
          | ok found =>
              exact inductionHypothesis.map_injective fun _ _ equal => (List.cons.inj equal).2

theorem twinned_cons {raw : Bool} {same : Prop} {child other : MarkupNode}
    (proper : child.isPseudo = false) (properOther : other.isPseudo = false)
    (twinned : Twinned same (toDescriptor mapping raw child) (toDescriptor mapping raw other))
    (after : List MarkupNode) :
    Twinned same (childDescriptors mapping raw (child :: after))
      (childDescriptors mapping raw (other :: after)) := by
  rw [childDescriptors_cons mapping proper, childDescriptors_cons mapping properOther]
  obtain ⟨fault, failed, failedToo⟩ | ⟨value, last, found, foundToo, values⟩ := twinned
  · rw [failed, failedToo]
    exact .inl ⟨fault, rfl, rfl⟩
  · rw [found, foundToo, ok_bind, ok_bind]
    cases childDescriptors mapping raw after with
    | error fault => exact .inl ⟨fault, rfl, rfl⟩
    | ok others => exact .inr ⟨_, _, rfl, rfl, by simp [values]⟩

/-- Two nodes that differ in their texts and in their children. -/
theorem twinned_toDescriptor {raw : Bool} {name : String} {attributes : Table Value}
    {text other : List Char} {children others : List MarkupNode} {same : Prop}
    (pseudo : children.all MarkupNode.isPseudo = others.all MarkupNode.isPseudo)
    (twinned : ∀ raw, Twinned same (childDescriptors mapping raw children)
      (childDescriptors mapping raw others)) :
    Twinned (mapping.textEntry attributes text = mapping.textEntry attributes other ∧ same)
      (toDescriptor mapping raw (.node name attributes (nodeText text) children))
      (toDescriptor mapping raw (.node name attributes (nodeText other) others)) := by
  have present : ∀ text : List Char,
      (mapping.ownEntries raw name attributes (nodeText text)).getOrNull
          DescriptorKeys.standard.children =
        ((mapping.lastUnder? attributes DescriptorKeys.standard.children).or
          (some (.list []))).getD .null := by
    intro text
    rw [Entries.getOrNull, get?_children_ownEntries]
  rw [toDescriptor, toDescriptor]
  simp only [present, mapping.rawChildren_ownEntries raw name attributes (nodeText other)
    (nodeText text), ← pseudo]
  by_cases childless : children.all MarkupNode.isPseudo = true
  · -- There are no children, so these are the same.
    have holds : same := by
      have none_ := twinned false
      rw [childDescriptors_of_pseudo mapping _ childless,
        childDescriptors_of_pseudo mapping _ (pseudo ▸ childless)] at none_
      obtain ⟨_, failed, -⟩ | ⟨_, _, found, foundToo, values⟩ := none_
      · simp at failed
      · exact values.mp (Except.ok.inj (found.symm.trans foundToo))
    rw [if_pos childless, if_pos childless]
    exact .inr ⟨_, _, rfl, rfl, by simp [ownEntries_eq_iff, holds]⟩
  · rw [if_neg childless, if_neg childless]
    split
    · next items _ =>
        refine (twinned _).map fun values => ?_
        rw [← values]
        constructor
        · intro equal
          have texts := congrArg (·.get? DescriptorKeys.standard.text) equal
          have lists := congrArg (·.get? DescriptorKeys.standard.children) equal
          simp only [Entries.get?_set, get?_text_ownEntries] at texts lists
          exact ⟨by simpa [DescriptorKeys.standard] using texts, by simpa using lists⟩
        · rintro ⟨texts, rfl⟩
          rw [mapping.ownEntries_eq_iff.mpr texts]
    · exact .inl ⟨_, rfl, rfl⟩

end MarkupMapping

/-! ## The content of an element -/

namespace Xml

/-- Whether a node is character data. -/
def Node.isData : Node → Bool
  | .data _ => true
  | _ => false

/-- The attributes of an element under the names that count in a descriptor. -/
def Node.values (attributes : List (Name × String)) : Table Value :=
  MarkupNode.localAttributes
    (attributes.map fun (name, value) => (name.localName, Value.text value))

open MarkupMapping (nodeText) in
theorem Node.toMarkup?_element (name : Name) (attributes : List (Name × String))
    (content : List Node) :
    (Node.element name attributes content).toMarkup? =
      some (.node name.localName (values attributes) (nodeText (leadingText content))
        (childNodes content)) := by
  rw [toMarkup?]
  rfl

theorem Node.childNodes_append (content others : List Node) :
    childNodes (content ++ others) = childNodes content ++ childNodes others := by
  induction content with
  | nil => rfl
  | cons node content inductionHypothesis =>
      rw [List.cons_append, childNodes, childNodes, inductionHypothesis]
      split <;> rfl

theorem Node.leadingText_append (content others : List Node) :
    leadingText (content ++ others) =
      if content.all isData then leadingText content ++ leadingText others
      else leadingText content := by
  induction content with
  | nil => rfl
  | cons node content inductionHypothesis =>
      cases node with
      | data run =>
          rw [List.cons_append, leadingText, leadingText, inductionHypothesis]
          simp only [List.all_cons, isData, Bool.true_and]
          split
          · rw [List.append_assoc]
          · rfl
      | element name attributes content => rfl
      | comment text => rfl

theorem childNodes_dataNodes (run : List Char) : Node.childNodes (dataNodes run) = [] := by
  unfold dataNodes
  split <;> rfl

theorem leadingText_dataNodes (run : List Char) (others : List Node) :
    Node.leadingText (dataNodes run ++ others) = run ++ Node.leadingText others := by
  unfold dataNodes
  split
  · next empty => rw [List.isEmpty_iff.mp empty]; rfl
  · rfl

theorem isPseudo_of_mem_childNodes (comments : List (List Char)) :
    ∀ child ∈ Node.childNodes (comments.map .comment), child.isPseudo = true := by
  induction comments with
  | nil => simp [Node.childNodes]
  | cons content comments inductionHypothesis =>
      rw [List.map_cons, Node.childNodes, Node.toMarkup?]
      exact List.forall_mem_cons.mpr ⟨by decide, inductionHypothesis⟩

/-! ## Comments at a spot -/

namespace Spot

variable (mapping : MarkupMapping)

/-- The text of the element around a spot stays as it is, although its first child follows on
the first part of a run of data: something else than data stands in front of the run, or what
is behind is blank, or in place of it an attribute with the same text is kept. -/
def KeepsText (front back : List Char) : Spot → Prop
  | here _ attributes before after =>
    before.all Node.isData = false ∨
      Text.isBlankText (back ++ Node.leadingText after) = true ∨
        (Text.isBlankText (Node.leadingText before ++ front) = true ∧
          mapping.lastUnder? (Node.values attributes) DescriptorKeys.standard.text =
            some (.text (String.ofList (Text.strip (back ++ Node.leadingText after)))))
  | inside _ _ _ inner _ => inner.KeepsText front back

theorem leadingText_append_fill (before : List Node) (spot : Spot) (nodes after : List Node) :
    Node.leadingText (before ++ spot.fill nodes :: after) = Node.leadingText before := by
  have noText : Node.leadingText (spot.fill nodes :: after) = [] := by cases spot <;> rfl
  rw [Node.leadingText_append, noText, List.append_nil, ite_self]

variable {comments : List (List Char)} {front back behind : List Char}

theorem textEntry_here_iff (present : comments ≠ []) {name : Name}
    {attributes : List (Name × String)} {before after : List Node} :
    mapping.textEntry (Node.values attributes)
          (Node.leadingText (before ++
            (dataNodes front ++ comments.map .comment ++ dataNodes behind) ++ after)) =
        mapping.textEntry (Node.values attributes)
          (Node.leadingText (before ++ dataNodes (front ++ back) ++ after)) ↔
      (here name attributes before after).KeepsText mapping front back := by
  obtain ⟨content, others, rfl⟩ := List.exists_cons_of_ne_nil present
  simp only [List.append_assoc, Node.leadingText_append before, KeepsText]
  cases onlyData : before.all Node.isData with
  | false => simp
  | true =>
      have cut : Node.leadingText (dataNodes front ++
          ((content :: others).map Node.comment ++ (dataNodes behind ++ after))) = front := by
        rw [leadingText_dataNodes]
        exact List.append_nil front
      rw [if_pos rfl, if_pos rfl, cut, leadingText_dataNodes, List.append_assoc front,
        ← List.append_assoc _ front, MarkupMapping.textEntry_append_iff]
      simp

/-- Trees that differ at a spot by comments in a run of data. -/
theorem twinned_fill (present : comments ≠ []) {spot : Spot} (proper : spot.IsProper) :
    ∃ node other,
      (spot.fill (dataNodes front ++ comments.map .comment ++ dataNodes behind)).toMarkup? =
          some node ∧
      (spot.fill (dataNodes (front ++ back))).toMarkup? = some other ∧
      node.isPseudo = false ∧ other.isPseudo = false ∧
      ∀ raw, MarkupMapping.Twinned (spot.KeepsText mapping front back)
        (mapping.toDescriptor raw node) (mapping.toDescriptor raw other) := by
  induction spot with
  | here name attributes before after =>
      refine ⟨_, _, Node.toMarkup?_element _ _ _, Node.toMarkup?_element _ _ _, proper, proper,
        fun raw => ?_⟩
      simp only [Node.childNodes_append, childNodes_dataNodes, List.append_nil, List.nil_append,
        List.append_assoc _ _ (Node.childNodes after)]
      have allPseudo := isPseudo_of_mem_childNodes comments
      have children : ∀ raw, MarkupMapping.Twinned True
          (mapping.childDescriptors raw (Node.childNodes before ++
            (Node.childNodes (comments.map .comment) ++ Node.childNodes after)))
          (mapping.childDescriptors raw (Node.childNodes before ++ Node.childNodes after)) := by
        intro raw
        refine mapping.twinned_append _ ?_
        rw [mapping.childDescriptors_pseudo_append raw allPseudo]
        exact .refl _
      refine (mapping.twinned_toDescriptor ?_ children).congr ?_
      · rw [List.all_append, List.all_append, List.all_append, List.all_eq_true.mpr allPseudo,
          Bool.true_and]
      · rw [and_true, textEntry_here_iff mapping present]
  | inside name attributes before inner after inductionHypothesis =>
      obtain ⟨node, other, marked, markedToo, isProper, isProperToo, twinned⟩ :=
        inductionHypothesis proper.2
      refine ⟨_, _, Node.toMarkup?_element _ _ _, Node.toMarkup?_element _ _ _, proper.1, proper.1,
        fun raw => ?_⟩
      simp only [leadingText_append_fill, Node.childNodes_append, Node.childNodes, marked,
        markedToo]
      refine (mapping.twinned_toDescriptor ?_ fun raw => mapping.twinned_append _
        (mapping.twinned_cons isProper isProperToo (twinned raw) _)).congr ?_
      · simp [isProper, isProperToo]
      · simp [KeepsText]

end Spot

end Xml

/-! ## Comments in a markup text -/

namespace MarkupMapping

variable (mapping : MarkupMapping)

theorem fromText_of_parse {text : String} (noNull : '\x00' ∉ text.toList) {root : Xml.Node}
    (parses : Xml.parse text = .ok root) {node : MarkupNode}
    (marked : root.toMarkup? = some node) :
    mapping.fromText (some text) = (mapping.toDescriptor false node).mapError .illegal := by
  have solid : Text.isBlankText ((some text).getD "").toList = false :=
    Xml.isBlankText_of_parse noNull parses
  rw [fromText_of_solid mapping solid, Option.getD_some, parses]
  dsimp only
  rw [marked]

/-- **Comments and descriptors.**  Comments are written into a well-formed markup text at a
place in the content of an element; they part a run of data there, which may be empty, into
what is in front of them and what is behind them.  The descriptor stays the same exactly if
none can be had without the comments either, or the text of the element stays the same. -/
theorem fromText_commented_eq_iff (insertion : Xml.Insertion) :
    ∃ spot : Xml.Spot, ∃ front back behind,
      Xml.parse insertion.plain = .ok (spot.fill (Xml.dataNodes (front ++ back))) ∧
      Xml.parse insertion.commented = .ok (spot.fill (Xml.dataNodes front ++
        insertion.plainComments.map .comment ++ Xml.dataNodes behind)) ∧
      (mapping.fromText (some insertion.commented) = mapping.fromText (some insertion.plain) ↔
        (∃ fault, mapping.fromText (some insertion.plain) = .error fault) ∨
          spot.KeepsText mapping front back) := by
  obtain ⟨spot, front, back, behind, proper, -, parses, parsesToo⟩ := insertion.exists_spot
  obtain ⟨node, other, marked, markedToo, -, -, twinned⟩ :=
    spot.twinned_fill mapping insertion.plainComments_ne_nil proper
  refine ⟨spot, front, back, behind, parses, parsesToo, ?_⟩
  rw [mapping.fromText_of_parse insertion.noNull_commented parsesToo marked,
    mapping.fromText_of_parse insertion.noNull_plain parses markedToo]
  exact (twinned false).mapError_eq_iff

/-- A comment in front of a greeting. -/
def greeting : Xml.Insertion where
  before := "<a>"
  after := "hello</a>"
  comments := [" c ".toList]
  noNull := by decide
  wellFormed := by decide +kernel
  inContent := by decide +kernel
  present := by simp
  areComments :=
    List.forall_mem_singleton.mpr (Xml.isComment_of_no_hyphen (by decide) (by decide))

/-- The greeting is lost. -/
theorem greeting_lost :
    greeting.plain = "<a>hello</a>" ∧ greeting.commented = "<a><!-- c -->hello</a>" ∧
      MarkupMapping.standard.fromText (some greeting.commented) ≠
        MarkupMapping.standard.fromText (some greeting.plain) := by
  refine ⟨by decide +kernel, by decide +kernel, fun same => ?_⟩
  have kept := congrArg
    (fun result => (result.toOption.bind (·.get? DescriptorKeys.standard.text)).isSome) same
  revert kept
  decide +kernel

end MarkupMapping

end CommandHost
