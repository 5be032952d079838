import CommandHost.Markup.Node
import CommandHost.Proofs.Xml.Presence
import Mathlib.Data.List.TakeWhile

/-!
# Pieces of content

Content is read in pieces (`Item`): tags, comments, instructions and sections, references, and
runs of data.  Reading content is reading a piece, doing what it asks for, and going on behind
it (`readContent_cons`).  A piece is read in the same way in a longer text, unless it is a run
of data that may go on there (`readItem_append`), and reading one never complains that the root
element is missing (`present_readItem`).
-/

namespace CommandHost.Xml

variable {declared : Declared} {base fuel : Nat} {active : List String}

/-! ## Names of elements -/

/-- A written name whose local part does not begin like a pseudo node. -/
def IsProperName (written : String) : Prop :=
  ∀ (scope : Scope) (name : Name), scope.elementName written = .ok name →
    MarkupNode.isPseudoName name.localName = false

theorem isProperName_of_parts {written : String}
    (whole : MarkupNode.isPseudoName written = false)
    (parts : ∀ start localName, splitName? written = some (start, localName) →
      MarkupNode.isPseudoName localName = false) : IsProperName written := by
  intro scope name resolved
  unfold Scope.elementName at resolved
  split at resolved
  · next start localName split_ =>
      split at resolved
      · obtain rfl := Except.ok.inj resolved
        exact parts _ _ split_
      · simp at resolved
  · obtain rfl := Except.ok.inj resolved
    exact whole

/-- What may begin a name is not the mark of pseudo nodes. -/
theorem isPseudoName_of_isNameStart {c : Char} (starts : isNameStart c = true)
    (rest : List Char) : MarkupNode.isPseudoName (String.ofList (c :: rest)) = false := by
  have different : c ≠ MarkupNode.pseudoMark := by
    rintro rfl
    revert starts
    decide
  simpa [MarkupNode.isPseudoName] using different

theorem colon_ne_of_isNameChar {c : Char} (belongs : isNameChar c = true) : c ≠ ':' := by
  rintro rfl
  revert belongs
  decide

/-- A name without a prefix begins with what may begin a name, and has no colon. -/
theorem exists_of_readName {text name rest : List Char} (reads : readName text = .ok (name, rest)) :
    ∃ c others, name = c :: others ∧ isNameStart c = true ∧ ∀ d ∈ name, d ≠ ':' := by
  cases text with
  | nil => simp [readName] at reads
  | cons c others =>
      rw [readName] at reads
      split at reads
      · next starts =>
          obtain ⟨rfl, -⟩ : c :: others.takeWhile isNameChar = name ∧ _ = rest := by
            simpa using reads
          refine ⟨c, _, rfl, starts, fun d member => ?_⟩
          rcases List.mem_cons.mp member with rfl | inRun
          · rintro rfl
            revert starts
            decide
          · exact colon_ne_of_isNameChar (List.mem_takeWhile_imp inRun)
      · simp at reads

theorem splitName?_ofList {start name : List Char} (noColon : ∀ d ∈ start, d ≠ ':') :
    splitName? (String.ofList start) = none ∧
      splitName? (String.ofList (start ++ ':' :: name)) =
        some (String.ofList start, String.ofList name) := by
  have run : start.takeWhile (· ≠ ':') = start :=
    List.takeWhile_eq_self_iff.mpr fun d member => by simpa using noColon d member
  constructor
  · simp only [splitName?, String.toList_ofList, run, List.drop_length]
  · have stop : (start ++ ':' :: name).takeWhile (· ≠ ':') = start := by
      rw [List.takeWhile_append_of_pos fun d member => by simpa using noColon d member]
      simp
    simp only [splitName?, String.toList_ofList, stop, List.drop_left]

theorem isProperName_of_readQualified {text name rest : List Char}
    (reads : readQualified text = .ok (name, rest)) : IsProperName (String.ofList name) := by
  obtain ⟨⟨first, behind⟩, readsFirst, reads⟩ := bind_eq_ok_iff.mp reads
  obtain ⟨c, others, rfl, starts, noColon⟩ := exists_of_readName readsFirst
  dsimp only at reads
  split at reads
  · obtain ⟨⟨second, last⟩, readsSecond, reads⟩ := bind_eq_ok_iff.mp reads
    obtain ⟨rfl, -⟩ : (c :: others) ++ ':' :: second = name ∧ last = rest := by simpa using reads
    obtain ⟨d, tail, rfl, startsToo, -⟩ := exists_of_readName readsSecond
    refine isProperName_of_parts (isPseudoName_of_isNameStart starts _) ?_
    intro start localName parts
    rw [(splitName?_ofList noColon).2] at parts
    obtain ⟨-, rfl⟩ :
        String.ofList (c :: others) = start ∧ String.ofList (d :: tail) = localName := by
      simpa using parts
    exact isPseudoName_of_isNameStart startsToo tail
  · obtain ⟨rfl, -⟩ : c :: others = name ∧ behind = rest := by simpa using reads
    refine isProperName_of_parts (isPseudoName_of_isNameStart starts _) ?_
    intro start localName parts
    rw [(@splitName?_ofList _ [] noColon).1] at parts
    simp at parts

/-! ## Pieces of content -/

/-- What a piece of content asks for. -/
inductive Item where
  | leaf (node : Node)
  | nothing
  | opens (tag : Tag)
  | closes (written : String)
  | refers (name : String)

namespace Item

/-- Only tags can end the root element. -/
def isTag : Item → Bool
  | opens _ | closes _ => true
  | _ => false

/-- Does what a piece asks for. -/
def apply (declared : Declared) (base fuel : Nat) (active : List String) (progress : Progress) :
    Item → Except Fault Progress
  | leaf node => .ok (progress.add node)
  | nothing => .ok progress
  | opens tag => progress.openTag declared active tag
  | closes written =>
    if progress.depth = base then .error .asynchronousEntity else progress.closeTag written
  | refers name =>
    match declared.entityInContent active name with
    | .error fault => .error fault
    | .ok inner =>
      let spent := progress.spent + inner.length
      if expansionLimit < spent then .error .amplification
      else
        (readContent declared progress.depth fuel (name :: active) { progress with spent }
          inner).map Prod.fst

end Item

/-- Reads a piece that begins with a bracket. -/
def readMarkup : Step Item := fun text =>
  match text with
  | [] => .error .unclosedToken
  | '!' :: '-' :: rest =>
    (readComment rest).map fun (content, rest) => (.leaf (.comment content), rest)
  | '!' :: '[' :: rest => do
    let (_, rest) ← readSectionStart rest
    let (content, rest) ← readSection [] rest
    return (if content.isEmpty then .nothing else .leaf (.data content), rest)
  | '!' :: rest => .error (unexpected rest)
  | '?' :: rest => do
    let (content, rest) ← Instruction.read rest
    if content.isDeclaration then throw .misplacedDeclaration else return (.nothing, rest)
  | '/' :: rest => do
    let (written, rest) ← Tag.readEnd rest
    return (.closes written, rest)
  | _ => do
    let (tag, rest) ← Tag.read text
    return (.opens tag, rest)

/-- Reads a piece of content. -/
def readItem : Step Item := fun text =>
  match text with
  | '<' :: rest => readMarkup rest
  | '&' :: rest => do
    let (reference, rest) ← readReference rest
    match reference with
    | .character number => return (.leaf (.data [← characterOf number]), rest)
    | .entity name =>
      match predefined? name with
      | some c => return (.leaf (.data [c]), rest)
      | none => return (.refers name, rest)
  | text =>
    let (run, rest) := spanData text
    if run.isEmpty then .error .invalidToken else .ok (.leaf (.data run), rest)

/-- A piece that begins with a bracket is read first, and then done. -/
theorem readBracket_eq (fuel : Nat) (progress : Progress) (text : List Char) :
    readBracket declared base active progress text =
      readMarkup text >>= fun (item, rest) =>
        (item.apply declared base fuel active progress).map fun next => (next, rest) := by
  unfold readBracket
  split
  · rfl
  · rw [readMarkup]
    cases readComment _ <;> rfl
  · next rest =>
      rw [readMarkup]
      cases readSectionStart rest with
      | error fault => rfl
      | ok start =>
          dsimp only [ok_bind]
          cases readSection [] start.2 with
          | error fault => rfl
          | ok content =>
              simp only [ok_bind, pure_eq_ok]
              cases content.1.isEmpty <;> rfl
  · simp [readMarkup]
  · next rest =>
      rw [readMarkup]
      cases Instruction.read rest with
      | error fault => rfl
      | ok content =>
          simp only [ok_bind]
          split <;> rfl
  · next rest =>
      rw [readMarkup]
      cases Tag.readEnd rest with
      | error fault => rfl
      | ok written =>
          simp only [ok_bind, pure_eq_ok, Item.apply]
          split
          · rfl
          · cases progress.closeTag written.1 <;> rfl
  · rw [readMarkup]
    · cases Tag.read _ with
      | error fault => rfl
      | ok tag =>
          simp only [ok_bind, pure_eq_ok, Item.apply]
          cases progress.openTag declared active tag.1 <;> rfl
    all_goals assumption

theorem root_add (progress : Progress) (node : Node) :
    (progress.add node).root = progress.root := by
  unfold Progress.add
  split <;> rfl

theorem leaf_or_nothing_of_readMarkup {item : Item} {text rest : List Char}
    (reads : readMarkup text = .ok (item, rest)) (noTag : item.isTag = false) :
    (∃ node, item = .leaf node) ∨ item = .nothing := by
  unfold readMarkup at reads
  split at reads
  · simp at reads
  · obtain ⟨content, -, same⟩ := map_eq_ok_iff.mp reads
    exact .inl ⟨.comment content.1, (congrArg Prod.fst same).symm⟩
  · obtain ⟨start, -, reads⟩ := bind_eq_ok_iff.mp reads
    obtain ⟨content, -, reads⟩ := bind_eq_ok_iff.mp reads
    obtain ⟨rfl, -⟩ : (if content.1.isEmpty then Item.nothing else .leaf (.data content.1)) = item ∧
        content.2 = rest := by
      simpa using reads
    split
    · exact .inr rfl
    · exact .inl ⟨_, rfl⟩
  · simp at reads
  · obtain ⟨content, -, reads⟩ := bind_eq_ok_iff.mp reads
    dsimp only at reads
    split at reads
    · simp at reads
    · exact .inr (congrArg Prod.fst (Except.ok.inj reads)).symm
  · obtain ⟨written, -, reads⟩ := bind_eq_ok_iff.mp reads
    obtain rfl : Item.closes written.1 = item := congrArg Prod.fst (Except.ok.inj reads)
    simp [Item.isTag] at noTag
  · obtain ⟨tag, -, reads⟩ := bind_eq_ok_iff.mp reads
    obtain rfl : Item.opens tag.1 = item := congrArg Prod.fst (Except.ok.inj reads)
    simp [Item.isTag] at noTag

theorem root_of_apply {progress next : Progress} (unclosed : progress.root = none) {item : Item}
    (leaf : (∃ node, item = .leaf node) ∨ item = .nothing)
    (applied : item.apply declared base fuel active progress = .ok next) : next.root = none := by
  obtain ⟨node, rfl⟩ | rfl := leaf
  · obtain rfl : progress.add node = next := by simpa [Item.apply] using applied
    rw [root_add, unclosed]
  · obtain rfl : progress = next := by simpa [Item.apply] using applied
    exact unclosed

/-- Content is read piece by piece until the root element ends. -/
theorem readContent_cons {progress : Progress} (unclosed : progress.root = none) (c : Char)
    (text : List Char) :
    readContent declared base (fuel + 1) active progress (c :: text) =
      readItem (c :: text) >>= fun (item, rest) =>
        item.apply declared base fuel active progress >>= fun next =>
          if item.isTag && next.root.isSome then .ok (next, rest)
          else readContent declared base fuel active next rest := by
  by_cases bracket : c = '<'
  · subst bracket
    rw [readContent, readItem, readBracket_eq fuel]
    cases reads : readMarkup text with
    | error fault => rfl
    | ok found =>
        obtain ⟨item, rest⟩ := found
        simp only [ok_bind]
        cases applied : item.apply declared base fuel active progress with
        | error fault => rfl
        | ok next =>
            cases tagged : item.isTag with
            | true => rfl
            | false =>
                have open_ : next.root = none :=
                  root_of_apply unclosed (leaf_or_nothing_of_readMarkup reads tagged) applied
                simp [Except.map, open_]
  · by_cases ampersand : c = '&'
    · subst ampersand
      rw [readContent, readItem]
      cases readReference text with
      | error fault => rfl
      | ok found =>
          obtain ⟨reference, rest⟩ := found
          cases reference with
          | character number =>
              simp only [ok_bind]
              cases characterOf number <;> rfl
          | entity name =>
              simp only [ok_bind]
              cases predefined? name with
              | some c => rfl
              | none =>
                  simp only [ok_bind, pure_eq_ok, Item.apply, Item.isTag]
                  cases declared.entityInContent active name with
                  | error fault => rfl
                  | ok inner =>
                      dsimp only
                      split
                      · rfl
                      · cases readContent declared progress.depth fuel (name :: active) _ inner
                        · rfl
                        · rfl
    · rw [readContent, readItem]
      · cases spanData (c :: text) with
        | mk run rest =>
            dsimp only
            split <;> rfl
      all_goals simp_all

/-! ## Pieces in longer texts -/

/-- A run of data that something ended is the same in a longer text. -/
theorem spanData_append {text run : List Char} {c : Char} {rest : List Char}
    (spanned : spanData text = (run, c :: rest)) (after : List Char) :
    spanData (text ++ after) = (run, c :: (rest ++ after)) := by
  induction text generalizing run with
  | nil => simp [spanData] at spanned
  | cons d others inductionHypothesis =>
      rw [spanData] at spanned
      rw [List.cons_append, spanData]
      dsimp only at spanned ⊢
      split at spanned
      · next ends =>
          obtain ⟨rfl, rfl, rfl⟩ : [] = run ∧ d = c ∧ others = rest := by simpa using spanned
          have endsToo : (decide (d = '<') || decide (d = '&') || !isAllowed d ||
              [']', ']', '>'].isPrefixOf (d :: (others ++ after))) = true := by
            rw [Bool.or_eq_true] at ends ⊢
            refine ends.imp_right fun closes => ?_
            rw [List.isPrefixOf_iff_prefix] at closes ⊢
            exact closes.trans (List.prefix_append (d :: others) after)
          rw [if_pos endsToo]
      · next goesOn =>
          obtain ⟨behind, spannedBehind, rfl⟩ :
              ∃ behind, spanData others = (behind, c :: rest) ∧ d :: behind = run := by
            cases spannedBehind : spanData others with
            | mk behind last => simp_all
          have goesOnToo : ¬ (decide (d = '<') || decide (d = '&') || !isAllowed d ||
              [']', ']', '>'].isPrefixOf (d :: (others ++ after))) = true := by
            -- Two more characters are there, since the run was ended by one.
            cases others with
            | nil => simp [spanData] at spannedBehind
            | cons e others =>
                cases others with
                | nil =>
                    have noBracket : ']' ≠ e := by
                      rintro rfl
                      have single : spanData [']'] = ([']'], []) := by decide
                      simp [single] at spannedBehind
                    simpa [noBracket] using goesOn
                | cons f others => simpa using goesOn
          rw [if_neg goesOnToo, inductionHypothesis spannedBehind]

theorem extends_readMarkup : Extends readMarkup := by
  intro text item rest reads after
  unfold readMarkup at reads
  split at reads
  · simp at reads
  · obtain ⟨⟨content, last⟩, readsComment, same⟩ := map_eq_ok_iff.mp reads
    obtain ⟨rfl, rfl⟩ : Item.leaf (.comment content) = item ∧ last = rest := by simpa using same
    simp [readMarkup, extends_readComment readsComment after, Except.map]
  · obtain ⟨⟨start, opened⟩, readsStart, reads⟩ := bind_eq_ok_iff.mp reads
    obtain ⟨⟨content, last⟩, readsSection, reads⟩ := bind_eq_ok_iff.mp reads
    obtain ⟨rfl, rfl⟩ : (if content.isEmpty then Item.nothing else .leaf (.data content)) = item ∧
        last = rest := by
      simpa using reads
    simp [readMarkup, extends_readSectionStart readsStart after,
      extends_readSection [] readsSection after]
  · simp at reads
  · obtain ⟨⟨content, last⟩, readsInstruction, reads⟩ := bind_eq_ok_iff.mp reads
    dsimp only at reads
    split at reads
    · simp at reads
    · next noDeclaration =>
        obtain ⟨rfl, rfl⟩ : Item.nothing = item ∧ last = rest := by simpa using reads
        simp [readMarkup, Instruction.extends_read readsInstruction after, noDeclaration]
  · obtain ⟨⟨written, last⟩, readsEnd, reads⟩ := bind_eq_ok_iff.mp reads
    obtain ⟨rfl, rfl⟩ : Item.closes written = item ∧ last = rest := by simpa using reads
    simp [readMarkup, Tag.extends_readEnd readsEnd after]
  · next noEnd noComment noSection noMark noInstruction noClose =>
      obtain ⟨⟨tag, last⟩, readsTag, reads⟩ := bind_eq_ok_iff.mp reads
      obtain ⟨rfl, rfl⟩ : Item.opens tag = item ∧ last = rest := by simpa using reads
      cases text with
      | nil => exact (noEnd rfl).elim
      | cons c others =>
          rw [List.cons_append, readMarkup]
          · rw [← List.cons_append, Tag.extends_read readsTag after]
            rfl
          all_goals simp_all

theorem readItem_ampersand (rest : List Char) :
    readItem ('&' :: rest) =
      readReference rest >>= fun (reference, rest) =>
        match reference with
        | .character number =>
          characterOf number >>= fun c => .ok (.leaf (.data [c]), rest)
        | .entity name =>
          match predefined? name with
          | some c => .ok (.leaf (.data [c]), rest)
          | none => .ok (.refers name, rest) :=
  rfl

/-- What is read where neither markup nor a reference begins. -/
theorem readItem_of_data {c : Char} (noBracket : c ≠ '<') (noAmpersand : c ≠ '&')
    (text : List Char) :
    readItem (c :: text) =
      if (spanData (c :: text)).1.isEmpty then .error .invalidToken
      else .ok (.leaf (.data (spanData (c :: text)).1), (spanData (c :: text)).2) := by
  rw [readItem]
  all_goals simp_all

/-- A piece is read in the same way in a longer text, unless it is a run of data that might
go on there. -/
theorem readItem_append {c : Char} {text rest : List Char} {item : Item}
    (reads : readItem (c :: text) = .ok (item, rest))
    (ended : rest ≠ [] ∨ c = '<' ∨ c = '&') (after : List Char) :
    readItem (c :: (text ++ after)) = .ok (item, rest ++ after) := by
  by_cases bracket : c = '<'
  · subst bracket
    exact extends_readMarkup reads after
  by_cases ampersand : c = '&'
  · subst ampersand
    rw [readItem_ampersand] at reads ⊢
    obtain ⟨⟨reference, behind⟩, readsReference, reads⟩ := bind_eq_ok_iff.mp reads
    rw [extends_readReference readsReference after]
    simp only [ok_bind]
    cases reference with
    | character number =>
        obtain ⟨c, character, reads⟩ := bind_eq_ok_iff.mp reads
        simp_all
    | entity name =>
        dsimp only at reads ⊢
        split at reads <;> simp_all
  · rw [readItem_of_data bracket ampersand] at reads ⊢
    have ended : rest ≠ [] := by simpa [bracket, ampersand] using ended
    split at reads
    · simp at reads
    · next solid =>
        obtain ⟨rfl, spanned⟩ : Item.leaf (.data (spanData (c :: text)).1) = item ∧
            (spanData (c :: text)).2 = rest := by
          simpa using reads
        obtain ⟨d, others, rfl⟩ := List.exists_cons_of_ne_nil ended
        have longer : spanData (c :: (text ++ after)) =
            ((spanData (c :: text)).1, d :: (others ++ after)) :=
          spanData_append (by rw [← spanned]) after
        rw [longer, if_neg solid]
        rfl

theorem present_readMarkup (text : List Char) : Present (readMarkup text) := by
  unfold readMarkup
  split
  · simp
  · exact (present_readComment _).map _
  · exact (present_readSectionStart _).bind fun _ =>
      (present_readSection _ _).bind fun _ => present_ok _
  · simp
  · refine (Instruction.present_read _).bind fun value => ?_
    dsimp only
    split <;> simp
  · exact (Tag.present_readEnd _).bind fun _ => present_ok _
  · exact (Tag.present_read _).bind fun _ => present_ok _

theorem present_readItem (text : List Char) : Present (readItem text) := by
  unfold readItem
  split
  · exact present_readMarkup _
  · refine (present_readReference _).bind fun value => ?_
    dsimp only
    split
    · exact (present_characterOf _).bind fun _ => present_ok _
    · split <;> simp
  · dsimp only
    split
    · exact present_error_iff.mpr (by simp)
    · exact present_ok _

theorem isProperName_of_readItem {text rest : List Char} {tag : Tag}
    (reads : readItem text = .ok (.opens tag, rest)) : IsProperName tag.name := by
  unfold readItem at reads
  split at reads
  · unfold readMarkup at reads
    split at reads
    · simp at reads
    · simp [map_eq_ok_iff] at reads
    · obtain ⟨start, -, reads⟩ := bind_eq_ok_iff.mp reads
      obtain ⟨content, -, reads⟩ := bind_eq_ok_iff.mp reads
      have same : (if content.1.isEmpty then Item.nothing else .leaf (.data content.1)) =
          .opens tag :=
        congrArg Prod.fst (Except.ok.inj reads)
      split at same <;> simp at same
    · simp at reads
    · obtain ⟨content, -, reads⟩ := bind_eq_ok_iff.mp reads
      dsimp only at reads
      split at reads <;> simp at reads
    · obtain ⟨written, -, reads⟩ := bind_eq_ok_iff.mp reads
      simp at reads
    · obtain ⟨⟨found, last⟩, readsTag, reads⟩ := bind_eq_ok_iff.mp reads
      obtain ⟨rfl, -⟩ : found = tag ∧ last = rest := by simpa using reads
      obtain ⟨⟨name, behind⟩, readsName, readsTag⟩ := bind_eq_ok_iff.mp readsTag
      obtain ⟨⟨attributes, end_⟩, -, readsTag⟩ := bind_eq_ok_iff.mp readsTag
      obtain ⟨rfl, -⟩ :
          (⟨String.ofList name, attributes.1, attributes.2⟩ : Tag) = found ∧ end_ = last := by
        simpa using readsTag
      exact isProperName_of_readQualified readsName
  · obtain ⟨⟨reference, behind⟩, -, reads⟩ := bind_eq_ok_iff.mp reads
    dsimp only at reads
    split at reads
    · simp [bind_eq_ok_iff] at reads
    · split at reads <;> simp at reads
  · dsimp only at reads
    split at reads <;> simp at reads

end CommandHost.Xml
