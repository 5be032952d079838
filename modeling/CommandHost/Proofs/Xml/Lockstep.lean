import CommandHost.Proofs.Xml.Content

/-!
# Reading content in lockstep

While an element is open, pieces keep one open until the root element ends (`IsOpen`).  From
two related states the same content leads to related states, if each of the few operations
on states does (`IsSimulation`); the second run may have more fuel.  And a text that ends in
the midst of an element is read up to the run of data at its end in the same way whatever
follows.
-/

namespace CommandHost.Xml

variable {declared : Declared} {base fuel more : Nat} {active : List String}

namespace Progress

/-- Elements are open, none of which is a pseudo node, and so is the root. -/
structure IsOpen (progress : Progress) : Prop where
  unclosed : progress.root = none
  nested : 0 < progress.depth
  proper : ∀ pending ∈ progress.pending,
    MarkupNode.isPseudoName pending.opened.name.localName = false

variable {progress next : Progress}

@[simp] theorem depth_add (node : Node) : (progress.add node).depth = progress.depth := by
  unfold add depth
  split <;> simp_all

theorem IsOpen.add (isOpen : progress.IsOpen) (node : Node) : (progress.add node).IsOpen := by
  refine ⟨by rw [root_add, isOpen.unclosed], by simpa using isOpen.nested, ?_⟩
  have proper := isOpen.proper
  unfold Progress.add
  split
  · exact proper
  · next pending others same =>
      rw [same, List.forall_mem_cons] at proper
      exact List.forall_mem_cons.mpr proper

theorem IsOpen.spend (isOpen : progress.IsOpen) (spent : Nat) :
    { progress with spent }.IsOpen :=
  ⟨isOpen.unclosed, isOpen.nested, isOpen.proper⟩

theorem addElement_of_nested (nested : 0 < progress.depth) (node : Node) :
    progress.addElement node = progress.add node := by
  have filled : progress.pending ≠ [] := List.length_pos_iff.mp nested
  simp [addElement, filled]

theorem openTag_eq_ok_iff {tag : Tag} :
    progress.openTag declared active tag = .ok next ↔
      ∃ opened, Opened.ofTag declared active progress.scope progress.spent tag = .ok opened ∧
        next =
          if tag.closed then
            { progress with spent := opened.spent }.addElement
              (.element opened.name opened.attributes [])
          else
            { progress with
              spent := opened.spent
              pending := ⟨tag.name, opened, []⟩ :: progress.pending } := by
  rw [openTag, bind_eq_ok_iff]
  refine exists_congr fun opened => and_congr_right fun _ => ?_
  dsimp only
  split <;> simp [eq_comm]

theorem closeTag_eq_ok_iff {written : String} :
    progress.closeTag written = .ok next ↔
      ∃ pending others, progress.pending = pending :: others ∧ pending.written = written ∧
        next = { progress with pending := others }.addElement
          (.element pending.opened.name pending.opened.attributes pending.reversed.reverse) := by
  unfold closeTag
  split
  · next none => simp [none]
  · next pending others same =>
      rw [same]
      split
      · next repeated =>
          constructor
          · intro closes
            exact ⟨pending, others, rfl, repeated, (Except.ok.inj closes).symm⟩
          · rintro ⟨_, _, ⟨rfl, rfl⟩, -, rfl⟩
            rfl
      · next different => simp [different]

theorem isPseudoName_of_ofTag {scope : Scope} {spent : Nat} {tag : Tag} {opened : Opened}
    (proper : IsProperName tag.name)
    (ofTag : Opened.ofTag declared active scope spent tag = .ok opened) :
    MarkupNode.isPseudoName opened.name.localName = false := by
  obtain ⟨_, -, ofTag⟩ := bind_eq_ok_iff.mp ofTag
  obtain ⟨gathering, -, ofTag⟩ := bind_eq_ok_iff.mp ofTag
  obtain ⟨_, -, ofTag⟩ := bind_eq_ok_iff.mp ofTag
  obtain ⟨name, named, ofTag⟩ := bind_eq_ok_iff.mp ofTag
  obtain rfl := Except.ok.inj ofTag
  exact proper gathering.scope name named

theorem IsOpen.openTag (isOpen : progress.IsOpen) {tag : Tag} (proper : IsProperName tag.name)
    (opens : progress.openTag declared active tag = .ok next) :
    next.IsOpen ∧ progress.depth ≤ next.depth := by
  obtain ⟨opened, ofTag, rfl⟩ := openTag_eq_ok_iff.mp opens
  split
  · rw [addElement_of_nested (isOpen.spend _).nested]
    exact ⟨(isOpen.spend _).add _, by rw [depth_add]; rfl⟩
  · refine ⟨⟨isOpen.unclosed, Nat.succ_pos _, ?_⟩, Nat.le_succ _⟩
    exact List.forall_mem_cons.mpr ⟨isPseudoName_of_ofTag proper ofTag, isOpen.proper⟩

/-- The root element is opened first, and is closed at once if its tag is its own end. -/
theorem openTag_outermost {tag : Tag} (proper : IsProperName tag.name)
    (opens : Progress.openTag declared active ⟨[], none, 0⟩ tag = .ok next) :
    next.root.isSome = true ∨ next.IsOpen := by
  obtain ⟨opened, ofTag, rfl⟩ := openTag_eq_ok_iff.mp opens
  split
  · exact .inl rfl
  · exact .inr ⟨rfl, Nat.one_pos, by simpa using isPseudoName_of_ofTag proper ofTag⟩

/-- Closing an element ends the root element, or stays inside of another one. -/
theorem IsOpen.closeTag (isOpen : progress.IsOpen) {written : String}
    (closes : progress.closeTag written = .ok next) :
    (progress.depth = 1 ∧ next.root.isSome = true) ∨
      (next.IsOpen ∧ progress.depth = next.depth + 1) := by
  obtain ⟨pending, others, same, -, rfl⟩ := closeTag_eq_ok_iff.mp closes
  cases others with
  | nil => exact .inl ⟨by simp [depth, same], rfl⟩
  | cons outer others =>
      have proper := isOpen.proper
      rw [same, List.forall_mem_cons] at proper
      have inner : { progress with pending := outer :: others }.IsOpen :=
        ⟨isOpen.unclosed, Nat.succ_pos _, proper.2⟩
      rw [addElement_of_nested inner.nested]
      exact .inr ⟨inner.add _, by rw [depth_add]; simp [depth, same]⟩

end Progress

/-! ## Related states -/

/-- A relation between states that each operation on states preserves, as long as elements
are open. -/
structure IsSimulation (related : Progress → Progress → Prop) : Prop where
  root_eq : ∀ {first second}, related first second → first.root.isSome = second.root.isSome
  depth_eq : ∀ {first second}, related first second → first.depth = second.depth
  spent_eq : ∀ {first second}, related first second → first.spent = second.spent
  spend : ∀ {first second}, related first second → ∀ spent,
    related { first with spent } { second with spent }
  add : ∀ {first second}, related first second → ∀ node, related (first.add node) (second.add node)
  openTag : ∀ {declared active first second tag next}, first.IsOpen → related first second →
    first.openTag declared active tag = .ok next →
      ∃ other, second.openTag declared active tag = .ok other ∧ related next other
  closeTag : ∀ {first second written next}, first.IsOpen → related first second →
    first.closeTag written = .ok next →
      ∃ other, second.closeTag written = .ok other ∧ related next other

theorem isSimulation_eq : IsSimulation (· = ·) where
  root_eq := by rintro _ _ rfl; rfl
  depth_eq := by rintro _ _ rfl; rfl
  spent_eq := by rintro _ _ rfl; rfl
  spend := by rintro _ _ rfl _; rfl
  add := by rintro _ _ rfl _; rfl
  openTag := by rintro _ _ _ _ _ _ - rfl opens; exact ⟨_, opens, rfl⟩
  closeTag := by rintro _ _ _ _ - rfl closes; exact ⟨_, closes, rfl⟩

/-- What reading content leads to: the end of the root element, or, inside of an entity, as
many open elements as before. -/
def EndsAt (base : Nat) (progress : Progress) : Prop :=
  if base = 0 then progress.root.isSome = true else progress.IsOpen ∧ progress.depth = base

/-- What a piece leads to: the end of the root element, or elements that are still open. -/
def StaysAt (base : Nat) (progress : Progress) : Prop :=
  (base = 0 ∧ progress.root.isSome = true) ∨ (progress.IsOpen ∧ base ≤ progress.depth)

variable {progress next : Progress}

/-- A piece stays inside of the root element until that ends, if the texts of entities do. -/
theorem Item.staysAt_of_endsAt (isOpen : progress.IsOpen) (inside : base ≤ progress.depth)
    {item : Item} (proper : ∀ tag, item = .opens tag → IsProperName tag.name)
    (entities : ∀ {base : Nat} {active : List String} {state ended : Progress}
      {text rest : List Char}, state.IsOpen → base ≤ state.depth →
        readContent declared base fuel active state text = .ok (ended, rest) → EndsAt base ended)
    (applied : item.apply declared base fuel active progress = .ok next) :
    StaysAt base next ∧ (item.isTag = false → next.root = none) := by
  cases item with
  | leaf node =>
      obtain rfl : progress.add node = next := by simpa [apply] using applied
      have open_ := isOpen.add node
      exact ⟨.inr ⟨open_, by simpa using inside⟩, fun _ => open_.unclosed⟩
  | nothing =>
      obtain rfl : progress = next := by simpa [apply] using applied
      exact ⟨.inr ⟨isOpen, inside⟩, fun _ => isOpen.unclosed⟩
  | opens tag =>
      obtain ⟨open_, deeper⟩ := isOpen.openTag (proper tag rfl) applied
      exact ⟨.inr ⟨open_, inside.trans deeper⟩, fun _ => open_.unclosed⟩
  | closes written =>
      rw [apply] at applied
      split at applied
      · simp at applied
      · next different =>
          refine ⟨?_, by simp [isTag]⟩
          obtain ⟨last, ended⟩ | ⟨open_, deeper⟩ := isOpen.closeTag applied
          · exact .inl ⟨by omega, ended⟩
          · exact .inr ⟨open_, by omega⟩
  | refers name =>
      rw [apply] at applied
      split at applied
      · simp at applied
      · next inner _ =>
          dsimp only at applied
          split at applied
          · simp at applied
          · obtain ⟨⟨ended, rest⟩, reads, rfl⟩ := map_eq_ok_iff.mp applied
            have endsAt : EndsAt progress.depth ended :=
              entities (isOpen.spend (progress.spent + inner.length)) le_rfl reads
            rw [EndsAt, if_neg isOpen.nested.ne'] at endsAt
            obtain ⟨open_, same⟩ := endsAt
            exact ⟨.inr ⟨open_, inside.trans same.ge⟩, fun _ => open_.unclosed⟩

/-- Content that begins inside of an element is read up to the end of the root element, or,
inside of an entity, until as many elements are open as before. -/
theorem readContent_endsAt {ended : Progress} {text rest : List Char} (isOpen : progress.IsOpen)
    (inside : base ≤ progress.depth)
    (reads : readContent declared base fuel active progress text = .ok (ended, rest)) :
    EndsAt base ended := by
  -- Induction on the fuel: the texts of entities are read with less of it, too.
  induction fuel generalizing base active progress ended text rest with
  | zero => simp [readContent] at reads
  | succ fuel inductionHypothesis =>
      cases text with
      | nil =>
          rw [readContent] at reads
          split at reads
          · simp at reads
          · next nested =>
              split at reads
              · next same =>
                  obtain ⟨rfl, -⟩ : progress = ended ∧ [] = rest := by simpa using reads
                  rw [EndsAt, if_neg nested]
                  exact ⟨isOpen, same⟩
              · simp at reads
      | cons c text =>
          rw [readContent_cons isOpen.unclosed] at reads
          obtain ⟨⟨item, behind⟩, readsItem, reads⟩ := bind_eq_ok_iff.mp reads
          obtain ⟨next, applied, reads⟩ := bind_eq_ok_iff.mp reads
          have proper : ∀ tag, item = .opens tag → IsProperName tag.name :=
            fun _ same => isProperName_of_readItem (same ▸ readsItem)
          obtain ⟨stays, unclosed⟩ :=
            item.staysAt_of_endsAt isOpen inside proper inductionHypothesis applied
          obtain ⟨rfl, closed⟩ | ⟨open_, deeper⟩ := stays
          · -- The root element is closed, so reading ends here.
            have tagged : item.isTag = true := by
              cases tagged : item.isTag with
              | true => rfl
              | false => simp [unclosed tagged] at closed
            simp only [tagged, closed, Bool.and_self, if_true, Except.ok.injEq,
              Prod.mk.injEq] at reads
            obtain ⟨rfl, -⟩ := reads
            exact closed
          · simp only [open_.unclosed, Option.isSome_none, Bool.and_false, Bool.false_eq_true,
              if_false] at reads
            exact inductionHypothesis open_ deeper reads

theorem Item.staysAt (isOpen : progress.IsOpen) (inside : base ≤ progress.depth) {item : Item}
    {text rest : List Char} (reads : readItem text = .ok (item, rest))
    (applied : item.apply declared base fuel active progress = .ok next) :
    StaysAt base next ∧ (item.isTag = false → next.root = none) :=
  item.staysAt_of_endsAt isOpen inside
    (fun _ same => isProperName_of_readItem (same ▸ reads)) readContent_endsAt applied

/-- If reading goes on behind a piece, elements are still open. -/
theorem Item.isOpen_of_goesOn (isOpen : progress.IsOpen) (inside : base ≤ progress.depth)
    {item : Item} {text rest : List Char} (reads : readItem text = .ok (item, rest))
    (applied : item.apply declared base fuel active progress = .ok next)
    (goesOn : ¬ (item.isTag && next.root.isSome) = true) :
    next.IsOpen ∧ base ≤ next.depth := by
  obtain ⟨stays, unclosed⟩ := item.staysAt isOpen inside reads applied
  obtain ⟨-, closed⟩ | open_ := stays
  · simp only [closed, Bool.and_true, Bool.not_eq_true] at goesOn
    simp [unclosed goesOn] at closed
  · exact open_

/-- A piece does the same to related states, if the texts of entities do. -/
theorem Item.apply_simulates {related : Progress → Progress → Prop}
    (simulation : IsSimulation related) {other : Progress} (isOpen : progress.IsOpen)
    (alike : related progress other) {item : Item}
    (entities : ∀ {base : Nat} {active : List String} {state second ended : Progress}
      {text rest : List Char}, state.IsOpen → base ≤ state.depth → related state second →
        readContent declared base fuel active state text = .ok (ended, rest) →
          ∃ other, readContent declared base more active second text = .ok (other, rest) ∧
            related ended other)
    (applied : item.apply declared base fuel active progress = .ok next) :
    ∃ last, item.apply declared base more active other = .ok last ∧ related next last := by
  cases item with
  | leaf node =>
      obtain rfl : progress.add node = next := by simpa [apply] using applied
      exact ⟨_, rfl, simulation.add alike node⟩
  | nothing =>
      obtain rfl : progress = next := by simpa [apply] using applied
      exact ⟨_, rfl, alike⟩
  | opens tag => exact simulation.openTag isOpen alike applied
  | closes written =>
      rw [apply] at applied ⊢
      rw [← simulation.depth_eq alike]
      split at applied
      · simp at applied
      · next different =>
          rw [if_neg different]
          exact simulation.closeTag isOpen alike applied
  | refers name =>
      rw [apply] at applied ⊢
      cases found : declared.entityInContent active name with
      | error fault => simp [found] at applied
      | ok inner =>
          rw [found] at applied
          dsimp only at applied ⊢
          rw [← simulation.spent_eq alike, ← simulation.depth_eq alike]
          split at applied
          · simp at applied
          · next cheap =>
              rw [if_neg cheap]
              obtain ⟨⟨ended, rest⟩, reads, rfl⟩ := map_eq_ok_iff.mp applied
              obtain ⟨last, readsToo, alikeToo⟩ :=
                entities (isOpen.spend (progress.spent + inner.length)) le_rfl
                  (simulation.spend alike _) reads
              exact ⟨last, map_eq_ok_iff.mpr ⟨_, readsToo, rfl⟩, alikeToo⟩

/-- **Lockstep.**  From related states the same content leads to related states, with no less
fuel. -/
theorem readContent_simulates {related : Progress → Progress → Prop}
    (simulation : IsSimulation related) (enough : fuel ≤ more) {other ended : Progress}
    {text rest : List Char} (isOpen : progress.IsOpen) (inside : base ≤ progress.depth)
    (alike : related progress other)
    (reads : readContent declared base fuel active progress text = .ok (ended, rest)) :
    ∃ last, readContent declared base more active other text = .ok (last, rest) ∧
      related ended last := by
  -- The two runs read the same pieces, since these do not depend on the state.
  induction fuel generalizing more base active progress other ended text rest with
  | zero => simp [readContent] at reads
  | succ fuel inductionHypothesis =>
      obtain ⟨more, rfl⟩ : ∃ left, more = left + 1 := ⟨more - 1, by omega⟩
      have enough : fuel ≤ more := by omega
      cases text with
      | nil =>
          rw [readContent] at reads ⊢
          rw [← simulation.depth_eq alike]
          split at reads
          · simp at reads
          · next nested =>
              rw [if_neg nested]
              split at reads
              · next same =>
                  obtain ⟨rfl, rfl⟩ : progress = ended ∧ [] = rest := by simpa using reads
                  exact ⟨other, by rw [if_pos same], alike⟩
              · simp at reads
      | cons c text =>
          have otherUnclosed : other.root = none := by
            have same := simulation.root_eq alike
            rw [isOpen.unclosed] at same
            simpa using same.symm
          rw [readContent_cons isOpen.unclosed] at reads
          rw [readContent_cons otherUnclosed]
          obtain ⟨⟨item, behind⟩, readsItem, reads⟩ := bind_eq_ok_iff.mp reads
          obtain ⟨next, applied, reads⟩ := bind_eq_ok_iff.mp reads
          obtain ⟨last, appliedToo, alikeToo⟩ :=
            item.apply_simulates simulation isOpen alike (inductionHypothesis enough) applied
          rw [readsItem]
          simp only [ok_bind]
          rw [appliedToo]
          simp only [ok_bind]
          rw [← simulation.root_eq alikeToo]
          split at reads
          · next ends =>
              rw [if_pos ends]
              obtain ⟨rfl, rfl⟩ : next = ended ∧ behind = rest := by simpa using reads
              exact ⟨last, rfl, alikeToo⟩
          · next goesOn =>
              rw [if_neg goesOn]
              obtain ⟨open_, deeper⟩ :=
                item.isOpen_of_goesOn isOpen inside readsItem applied goesOn
              exact inductionHypothesis enough open_ deeper alikeToo reads

theorem Item.apply_more (enough : fuel ≤ more) (isOpen : progress.IsOpen) {item : Item}
    (applied : item.apply declared base fuel active progress = .ok next) :
    item.apply declared base more active progress = .ok next := by
  obtain ⟨last, appliedToo, rfl⟩ :=
    item.apply_simulates isSimulation_eq isOpen rfl
      (readContent_simulates isSimulation_eq enough) applied
  exact appliedToo

/-! ## Texts that end in the midst of an element -/

theorem Item.present_apply (isOpen : progress.IsOpen) (item : Item)
    (entities : ∀ {base : Nat} {active : List String} {state : Progress} {text : List Char},
      state.IsOpen → base ≤ state.depth → base ≠ 0 →
        Present (readContent declared base fuel active state text)) :
    Present (item.apply declared base fuel active progress) := by
  cases item with
  | leaf node => exact present_ok _
  | nothing => exact present_ok _
  | opens tag => exact present_openTag
  | closes written =>
      rw [apply]
      split
      · simp
      · exact present_closeTag _ _
  | refers name =>
      rw [apply]
      have present : Present (declared.entityInContent active name) :=
        present_entityInContent name
      split
      · next fault found => simpa [found] using present
      · next inner _ =>
          dsimp only
          split
          · simp
          · exact (entities (isOpen.spend (progress.spent + inner.length)) le_rfl
              isOpen.nested.ne').map _

/-- Inside of an entity nothing complains that the root element is missing. -/
theorem present_readContent (isOpen : progress.IsOpen) (inside : base ≤ progress.depth)
    (nested : base ≠ 0) (text : List Char) :
    Present (readContent declared base fuel active progress text) := by
  induction fuel generalizing base active progress text with
  | zero => simp [readContent]
  | succ fuel inductionHypothesis =>
      cases text with
      | nil =>
          rw [readContent, if_neg nested]
          split <;> simp
      | cons c text =>
          rw [readContent_cons isOpen.unclosed]
          cases readsItem : readItem (c :: text) with
          | error fault => simpa [readsItem] using present_readItem (c :: text)
          | ok found =>
              obtain ⟨item, rest⟩ := found
              simp only [ok_bind]
              cases applied : item.apply declared base fuel active progress with
              | error fault =>
                  have present : Present (item.apply declared base fuel active progress) :=
                    item.present_apply isOpen fun isOpen inside nested =>
                      inductionHypothesis isOpen inside nested _
                  simpa [applied] using present
              | ok next =>
                  simp only [ok_bind]
                  split
                  · exact present_ok _
                  · next goesOn =>
                      obtain ⟨open_, deeper⟩ :=
                        item.isOpen_of_goesOn isOpen inside readsItem applied goesOn
                      exact inductionHypothesis open_ deeper nested rest

theorem spanData_append_self (text : List Char) :
    (spanData text).1 ++ (spanData text).2 = text := by
  induction text with
  | nil => rfl
  | cons c rest inductionHypothesis =>
      rw [spanData]
      dsimp only
      split
      · rfl
      · rw [List.cons_append, inductionHypothesis]

theorem readContent_cons_append (unclosed : progress.root = none) {c : Char}
    {text rest : List Char} {item : Item} (reads : readItem (c :: text) = .ok (item, rest))
    (ended : rest ≠ [] ∨ c = '<' ∨ c = '&')
    (applied : item.apply declared base fuel active progress = .ok next)
    (goesOn : ¬ (item.isTag && next.root.isSome) = true) (after : List Char) :
    readContent declared base (fuel + 1) active progress (c :: text ++ after) =
      readContent declared base fuel active next (rest ++ after) := by
  rw [List.cons_append, readContent_cons unclosed, readItem_append reads ended after]
  simp only [ok_bind]
  rw [applied]
  simp only [ok_bind]
  rw [if_neg goesOn]

/-- Where the reader of a text stands that ends in the midst of an element: the state there,
and the run of data at the end of the text, which may go on. -/
structure StandsAt (declared : Declared) (fuel : Nat) (active : List String) (progress : Progress)
    (text : List Char) (left : Nat) (place : Progress) (tail : List Char) : Prop where
  isOpen : place.IsOpen
  data : spanData tail = (tail, [])
  readContent_eq : ∀ extra after,
    readContent declared 0 (fuel + extra) active progress (text ++ after) =
      readContent declared 0 (left + extra) active place (tail ++ after)

theorem exists_standsAt (isOpen : progress.IsOpen) {text : List Char}
    (missing : readContent declared 0 fuel active progress text = .error .noElement) :
    ∃ left place tail, StandsAt declared fuel active progress text left place tail := by
  -- All pieces but the last one are ended by something, so each of them stays as it is.
  induction fuel generalizing progress text with
  | zero => simp [readContent] at missing
  | succ fuel inductionHypothesis =>
      cases text with
      | nil => exact ⟨fuel + 1, progress, [], isOpen, rfl, fun _ _ => rfl⟩
      | cons c text =>
          rw [readContent_cons isOpen.unclosed] at missing
          cases readsItem : readItem (c :: text) with
          | error fault =>
              have present := present_readItem (c :: text)
              simp_all
          | ok found =>
              obtain ⟨item, rest⟩ := found
              rw [readsItem] at missing
              simp only [ok_bind] at missing
              by_cases ended : rest ≠ [] ∨ c = '<' ∨ c = '&'
              · cases applied : item.apply declared 0 fuel active progress with
                | error fault =>
                    have present : Present (item.apply declared 0 fuel active progress) :=
                      item.present_apply isOpen fun isOpen inside nested =>
                        present_readContent isOpen inside nested _
                    simp_all
                | ok next =>
                    rw [applied] at missing
                    simp only [ok_bind] at missing
                    split at missing
                    · simp at missing
                    · next goesOn =>
                        obtain ⟨open_, -⟩ :=
                          item.isOpen_of_goesOn isOpen (Nat.zero_le _) readsItem applied goesOn
                        obtain ⟨left, place, tail, stands⟩ := inductionHypothesis open_ missing
                        refine ⟨left, place, tail, stands.isOpen, stands.data, ?_⟩
                        intro extra after
                        have appliedMore :=
                          item.apply_more (Nat.le_add_right fuel extra) isOpen applied
                        rw [Nat.add_right_comm, readContent_cons_append isOpen.unclosed readsItem
                          ended appliedMore goesOn, stands.readContent_eq]
              · -- The run of data goes up to the end of the text.
                simp only [ne_eq, not_or, not_not] at ended
                obtain ⟨rfl, noBracket, noAmpersand⟩ := ended
                refine ⟨fuel + 1, progress, c :: text, isOpen, ?_, fun _ _ => rfl⟩
                rw [readItem_of_data noBracket noAmpersand] at readsItem
                split at readsItem
                · simp at readsItem
                · obtain ⟨-, noRest⟩ : _ ∧ (spanData (c :: text)).2 = [] := by
                    simpa using readsItem
                  have whole := spanData_append_self (c :: text)
                  rw [noRest, List.append_nil] at whole
                  exact Prod.ext whole noRest

/-- The first piece of a document is the tag of its root element. -/
theorem exists_standsAt_outermost {d : Char} {others : List Char}
    (starts : (decide (0x80 ≤ d.toNat) || isNameStart d) = true)
    (missing : readContent declared 0 fuel active ⟨[], none, 0⟩ ('<' :: d :: others) =
      .error .noElement) :
    ∃ left place tail,
      StandsAt declared fuel active ⟨[], none, 0⟩ ('<' :: d :: others) left place tail := by
  cases fuel with
  | zero => simp [readContent] at missing
  | succ fuel =>
      have noMark : d ≠ '!' ∧ d ≠ '?' ∧ d ≠ '/' := by
        refine ⟨?_, ?_, ?_⟩ <;>
          · rintro rfl
            revert starts
            decide
      have tagged : readItem ('<' :: d :: others) =
          Tag.read (d :: others) >>= fun found => .ok (.opens found.1, found.2) := by
        rw [readItem, readMarkup]
        · rfl
        all_goals simp_all
      rw [readContent_cons rfl] at missing
      cases readsItem : readItem ('<' :: d :: others) with
      | error fault =>
          have present := present_readItem ('<' :: d :: others)
          rw [readsItem] at present missing
          exact absurd (Except.error.inj missing) (present_error_iff.mp present)
      | ok found =>
          obtain ⟨item, rest⟩ := found
          obtain ⟨tag, rfl⟩ : ∃ tag, Item.opens tag = item := by
            rw [tagged] at readsItem
            obtain ⟨⟨tag, last⟩, -, same⟩ := bind_eq_ok_iff.mp readsItem
            exact ⟨tag, congrArg Prod.fst (Except.ok.inj same)⟩
          rw [readsItem] at missing
          simp only [ok_bind, Item.apply] at missing
          cases opens : Progress.openTag declared active ⟨[], none, 0⟩ tag with
          | error fault =>
              have present : Present (Progress.openTag declared active ⟨[], none, 0⟩ tag) :=
                present_openTag
              simp_all
          | ok next =>
              rw [opens] at missing
              simp only [ok_bind] at missing
              split at missing
              · simp at missing
              · next goesOn =>
                  obtain closed | open_ :=
                    Progress.openTag_outermost (isProperName_of_readItem readsItem) opens
                  · simp [Item.isTag, closed] at goesOn
                  · obtain ⟨left, place, tail, stands⟩ := exists_standsAt open_ missing
                    refine ⟨left, place, tail, stands.isOpen, stands.data, fun extra after => ?_⟩
                    rw [Nat.add_right_comm, readContent_cons_append rfl readsItem (by simp) opens
                      goesOn, stands.readContent_eq]

end CommandHost.Xml
