import CommandHost.Proofs.Command.Filling
import CommandHost.Proofs.Value.Entries
import CommandHost.Proofs.Result

/-!
# Where the sentinel stays

The sentinel is written for every blank of every span, before it is known what the words
of the text are.  It is taken out again from the values and from bare words, but neither
from the words of the header nor from the keys of named parameters.

The main statement says where it is left in a command: nowhere, exactly if no blank of a
span stands in a word of the header or in the key of a named parameter.  What decides are
the words as they are written in the text.  A value never holds the sentinel.
-/

namespace CommandHost

/-- A text that does not hold a mark. -/
def Lacks (mark : List Char) (text : String) : Prop := ¬ mark <:+: text.toList

instance (mark : List Char) (text : String) : Decidable (Lacks mark text) :=
  inferInstanceAs (Decidable (¬ _))

/-! ## Entries that are texts -/

namespace Entries

variable {entries : Entries} {onKey onValue : String → Prop}

/-- All keys and all values are texts, the keys with one property and the values with
another. -/
def AreTexts (onKey onValue : String → Prop) (entries : Entries) : Prop :=
  ∀ entry ∈ entries,
    (∃ name, entry.1 = .text name ∧ onKey name) ∧
      ∃ content, entry.2 = .text content ∧ onValue content

theorem areTexts_nil : AreTexts onKey onValue [] := fun _ member => absurd member List.not_mem_nil

theorem AreTexts.of_mem_keys (texts : entries.AreTexts onKey onValue) {name : String}
    (member : Atom.text name ∈ entries.keys) : onKey name := by
  obtain ⟨entry, inEntries, same⟩ := List.mem_map.mp member
  obtain ⟨⟨other, isOther, holds⟩, -⟩ := texts entry inEntries
  cases same.symm.trans isOther
  exact holds

theorem AreTexts.set (texts : entries.AreTexts onKey onValue) {key content : String}
    (keyHolds : onKey key) (contentHolds : onValue content) :
    (entries.set key (.text content)).AreTexts onKey onValue := by
  have added : (∃ name, Atom.text key = .text name ∧ onKey name) ∧
      ∃ other, Value.text content = .text other ∧ onValue other :=
    ⟨⟨key, rfl, keyHolds⟩, content, rfl, contentHolds⟩
  unfold Entries.set
  induction entries with
  | nil =>
      intro entry member
      rw [List.mem_singleton.mp member]
      exact added
  | cons entry rest inductionHypothesis =>
      obtain ⟨first, others⟩ := List.forall_mem_cons.mp texts
      obtain ⟨other, old⟩ := entry
      rw [assign]
      split
      · exact List.forall_mem_cons.mpr ⟨⟨first.1, added.2⟩, others⟩
      · exact List.forall_mem_cons.mpr ⟨first, inductionHypothesis others⟩

theorem mem_keys_set {key name : String} {value : Value} :
    Atom.text name ∈ (entries.set key value).keys ↔
      name = key ∨ Atom.text name ∈ entries.keys := by
  unfold set
  induction entries with
  | nil => simp [keys]
  | cons entry rest inductionHypothesis =>
      obtain ⟨other, old⟩ := entry
      by_cases here : (Atom.text key).same other = true
      · obtain rfl := Atom.text_same_iff.mp here
        simp [assign, keys]
      · rw [assign, if_neg here]
        simp only [keys, List.map_cons, List.mem_cons] at inductionHypothesis ⊢
        rw [inductionHypothesis, or_left_comm]

end Entries

/-- A command in which no part holds a mark, nor is anything else than a text. -/
structure Command.IsFreeOf (mark : List Char) (command : Command) : Prop where
  moduleName : Lacks mark command.moduleName
  op : Lacks mark command.op
  target : ∀ target, command.target = some target → ∃ id, target = .text id ∧ Lacks mark id
  params : command.params.AreTexts (Lacks mark) (Lacks mark)

namespace RichDialect

open ReaderSettings (standard)

/-! ## Keys and values of items -/

namespace Item

variable {settings : ReaderSettings} {params : Entries} {position : Nat} {items : List Item}

/-- A key is the name of a named parameter, a bare word that was unescaped, or a position,
and a value is something that was unescaped. -/
theorem areTexts_assign {onKey onValue : String → Prop}
    (before : params.AreTexts onKey onValue)
    (onNamed : ∀ key value, named key value ∈ items → onKey (String.ofList key))
    (onBare : ∀ word, onKey (String.ofList (settings.unescape word)))
    (onPlace : ∀ place : Nat, onKey (intText place))
    (onContent : ∀ word, onValue (String.ofList (settings.unescape word))) :
    (assign settings params position items).AreTexts onKey onValue := by
  have later {item : Item} {rest : List Item}
      (named' : ∀ key value, named key value ∈ item :: rest → onKey (String.ofList key)) :
      ∀ key value, named key value ∈ rest → onKey (String.ofList key) :=
    fun key value member => named' key value (List.mem_cons_of_mem _ member)
  fun_induction assign settings params position items with
  | case1 => exact before
  | case2 params position key value rest inductionHypothesis =>
      have keyHolds := onNamed key value List.mem_cons_self
      exact inductionHypothesis (before.set keyHolds (onContent value)) (later onNamed)
  | case3 params position key word rest inductionHypothesis =>
      exact inductionHypothesis (before.set (onBare key) (onContent word))
        (later (later onNamed))
  | case4 params position key words rest inductionHypothesis =>
      exact inductionHypothesis (before.set (onBare key) (onContent _))
        (later (later onNamed))
  | case5 params position item rest _ _ _ inductionHypothesis =>
      have contentHolds : onValue (String.ofList (item.content settings)) := by
        cases item <;> exact onContent _
      exact inductionHypothesis (before.set (onPlace position) contentHolds) (later onNamed)

theorem mem_keys_assign {name : String} (member : Atom.text name ∈ params.keys) :
    Atom.text name ∈ (assign settings params position items).keys := by
  fun_induction assign settings params position items with
  | case1 => exact member
  | case2 _ _ _ _ _ inductionHypothesis | case3 _ _ _ _ _ inductionHypothesis
  | case4 _ _ _ _ _ inductionHypothesis | case5 _ _ _ _ _ _ _ inductionHypothesis =>
      exact inductionHypothesis (Entries.mem_keys_set.mpr (.inr member))

/-- No later item takes the name of a named parameter away. -/
theorem mem_keys_assign_of_named {key value : List Char} (member : named key value ∈ items) :
    Atom.text (String.ofList key) ∈ (assign settings params position items).keys := by
  fun_induction assign settings params position items with
  | case1 => cases member
  | case2 params position other content rest inductionHypothesis =>
      rcases List.mem_cons.mp member with here | inRest
      · cases here
        exact mem_keys_assign (Entries.mem_keys_set.mpr (.inl rfl))
      · exact inductionHypothesis inRest
  | case3 params position bareKey word rest inductionHypothesis =>
      exact inductionHypothesis (by simpa using member)
  | case4 params position bareKey words rest inductionHypothesis =>
      exact inductionHypothesis (by simpa using member)
  | case5 params position item rest loose _ _ inductionHypothesis =>
      rcases List.mem_cons.mp member with here | inRest
      · exact absurd here.symm (loose key value)
      · exact inductionHypothesis inRest

/-- A named parameter is one of the words, cut at its first colon. -/
theorem cut_of_named_mem_group {words : List (List Char)} (grouped : group words = .ok items)
    {key value : List Char} (member : named key value ∈ items) :
    ∃ word ∈ words, Text.cutAtFirst? nameMark word = some (key, value) := by
  induction words using group.induct generalizing items with
  | case1 =>
      rw [group] at grouped
      cases grouped
      cases member
  | case2 word rest quote opens closes inductionHypothesis =>
      rw [group_closed opens closes] at grouped
      obtain ⟨others, restGrouped, rfl⟩ := map_eq_ok_iff.mp grouped
      obtain ⟨found, inRest, cut⟩ := inductionHypothesis restGrouped (by simpa using member)
      exact ⟨found, List.mem_cons_of_mem word inRest, cut⟩
  | case3 word rest quote opens goesOn uncut =>
      rw [group_unclosed opens goesOn uncut] at grouped
      cases grouped
  | case4 word rest quote opens goesOn inside after cut inductionHypothesis =>
      rw [group_spanning opens goesOn cut] at grouped
      obtain ⟨others, afterGrouped, rfl⟩ := map_eq_ok_iff.mp grouped
      have inOthers : named key value ∈ others := by simpa using member
      obtain ⟨found, inAfter, foundCut⟩ := inductionHypothesis afterGrouped inOthers
      refine ⟨found, List.mem_cons_of_mem word ?_, foundCut⟩
      rw [eq_append_of_cutBehind? cut]
      exact List.mem_append_right inside inAfter
  | case5 word rest loose other content cut inductionHypothesis =>
      rw [group_named loose cut] at grouped
      obtain ⟨others, restGrouped, rfl⟩ := map_eq_ok_iff.mp grouped
      rcases List.mem_cons.mp member with here | inOthers
      · cases here
        exact ⟨word, List.mem_cons_self, cut⟩
      · obtain ⟨found, inRest, foundCut⟩ := inductionHypothesis restGrouped inOthers
        exact ⟨found, List.mem_cons_of_mem word inRest, foundCut⟩
  | case6 word rest loose uncut inductionHypothesis =>
      rw [group_bare loose uncut] at grouped
      obtain ⟨others, restGrouped, rfl⟩ := map_eq_ok_iff.mp grouped
      obtain ⟨found, inRest, cut⟩ := inductionHypothesis restGrouped (by simpa using member)
      exact ⟨found, List.mem_cons_of_mem word inRest, cut⟩

end Item

/-! ## The header -/

section Header

variable {settings : ReaderSettings} {text : Option String} {words : List (List Char)}
  {command : Command}

/-- How many of the words behind the module are read before the parameters. -/
def addressSize (settings : ReaderSettings) (words : List (List Char)) : Nat :=
  if words.head?.any settings.selector.toList.isPrefixOf then 2 else 1

/-- How many words are read before the parameters. -/
def headerSize (settings : ReaderSettings) (moduleName : Option String)
    (words : List (List Char)) : Nat :=
  if moduleName.any (· ≠ "") then addressSize settings words
  else 1 + addressSize settings words.tail

/-- The words that name the target and the operation of a command. -/
def address (settings : ReaderSettings) (command : Command) : List (List Char) :=
  match command.target with
  | some (.text id) => [settings.selector.toList ++ id.toList, command.op.toList]
  | _ => [command.op.toList]

/-- The words that name all of a command but its parameters, with the module only if none
was given. -/
def header (settings : ReaderSettings) (moduleName : Option String) (command : Command) :
    List (List Char) :=
  if moduleName.any (· ≠ "") then address settings command
  else command.moduleName.toList :: address settings command

/-- A command was read from words that are divided at a place into a header and the words
of the parameters. -/
structure DividedAt (settings : ReaderSettings) (size : Nat) (words header : List (List Char))
    (command : Command) : Prop where
  target : ∀ target, command.target = some target → ∃ id, target = .text id
  header : words.take size = header
  params : foldParams settings (words.drop size) = .ok command.params

theorem of_readOperation {moduleName : String} {target : Option Value}
    (reads : readOperation settings text moduleName target words = .ok command) :
    command.moduleName = moduleName ∧ command.target = target ∧
      ∃ rest, words = command.op.toList :: rest ∧
        foldParams settings rest = .ok command.params := by
  cases words with
  | nil => cases reads
  | cons op rest =>
      rw [readOperation] at reads
      cases folded : foldParams settings rest with
      | error opened =>
          rw [folded] at reads
          cases reads
      | ok params =>
          rw [folded] at reads
          cases reads
          exact ⟨rfl, rfl, rest, by rw [String.toList_ofList], folded⟩

theorem of_readTarget {moduleName : String}
    (reads : readTarget settings text moduleName words = .ok command) :
    command.moduleName = moduleName ∧
      DividedAt settings (addressSize settings words) words (address settings command)
        command := by
  cases words with
  | nil => cases reads
  | cons word rest =>
      by_cases selects : settings.selector.toList.isPrefixOf word = true
      · have size : addressSize settings (word :: rest) = 2 := if_pos selects
        simp only [readTarget, if_pos selects] at reads
        split at reads
        · cases reads
        · obtain ⟨name, target, params, rfl, folded⟩ := of_readOperation reads
          have whole := List.prefix_iff_eq_append.mp (List.isPrefixOf_iff_prefix.mp selects)
          refine ⟨name, ⟨fun value same => ?_, ?_, by rwa [size]⟩⟩
          · exact ⟨_, Option.some.inj (same.symm.trans target)⟩
          · simp only [size, address, target, String.toList_ofList, whole]
            rfl
      · have size : addressSize settings (word :: rest) = 1 := if_neg selects
        simp only [readTarget, if_neg selects] at reads
        obtain ⟨name, target, params, same, folded⟩ := of_readOperation reads
        rcases List.cons.inj same with ⟨rfl, rfl⟩
        refine ⟨name, ⟨fun value isTarget => ?_, ?_, by rwa [size]⟩⟩
        · rw [target] at isTarget
          cases isTarget
        · rw [size, address, target]
          rfl

theorem of_readUnnamed (reads : readWords.readUnnamed settings text words = .ok command) :
    DividedAt settings (1 + addressSize settings words.tail) words
      (command.moduleName.toList :: address settings command) command := by
  cases words with
  | nil => cases reads
  | cons name rest =>
      obtain ⟨isName, divided⟩ := of_readTarget reads
      rw [Nat.add_comm, isName, String.toList_ofList]
      exact ⟨divided.target, congrArg (name :: ·) divided.header, divided.params⟩

/-- Where a module is given that is not empty, it is the module of the command. -/
theorem of_readWords {moduleName : Option String}
    (reads : readWords settings text moduleName words = .ok command) :
    DividedAt settings (headerSize settings moduleName words) words
        (header settings moduleName command) command ∧
      (moduleName.any (· ≠ "") = true → moduleName = some command.moduleName) := by
  cases moduleName with
  | none => exact ⟨of_readUnnamed reads, fun given => absurd given (by simp)⟩
  | some name =>
      by_cases empty : name = ""
      · rw [readWords, if_pos empty] at reads
        rw [headerSize, header]
        simpa [empty] using of_readUnnamed reads
      · rw [readWords, if_neg empty] at reads
        obtain ⟨rfl, divided⟩ := of_readTarget reads
        rw [headerSize, header]
        simpa [empty] using divided

end Header

/-! ## Filled headers -/

theorem selects_filled (word : List Char) :
    standard.selector.toList.isPrefixOf (filled word) =
      standard.selector.toList.isPrefixOf word := by
  cases word with
  | nil => rfl
  | cons c rest =>
      rw [filled_cons]
      cases blank : Text.isBlank c with
      | false => rfl
      | true =>
          have different : '#' ≠ c := by
            rintro rfl
            exact absurd blank (by decide)
          have unselected : standard.selector.toList.isPrefixOf (c :: rest) = false := by
            have selector : standard.selector.toList = ['#'] := rfl
            rw [selector, List.isPrefixOf_cons_cons, beq_eq_false_iff_ne.mpr different,
              Bool.false_and]
          rw [unselected]
          rfl

theorem addressSize_filled (words : List (List Char)) :
    addressSize standard (words.map filled) = addressSize standard words := by
  cases words with
  | nil => rfl
  | cons word rest => simp [addressSize, selects_filled]

theorem headerSize_filled (moduleName : Option String) (words : List (List Char)) :
    headerSize standard moduleName (words.map filled) =
      headerSize standard moduleName words := by
  rw [headerSize, headerSize, ← List.map_tail, addressSize_filled, addressSize_filled]

/-! ## Commands without the sentinel -/

/-- No blank stands in a word of the header or in the key of a named parameter. -/
structure BlanksInValues (moduleName : Option String) (words : List (List Char)) : Prop where
  header : ∀ word ∈ words.take (headerSize standard moduleName words),
    ∀ c ∈ word, Text.isBlank c = false
  keys : ∀ items,
    Item.group (words.drop (headerSize standard moduleName words)) = .ok items →
      ∀ key value, .named key value ∈ items → ∀ c ∈ key, Text.isBlank c = false

theorem intText_lacks (place : Nat) : Lacks standard.sentinel.toList (intText place) := by
  intro holds
  have digits : (intText place).toList = Nat.toDigits 10 place := by
    have positive : ¬ (place : Int) < 0 := by omega
    rw [intText, if_neg positive, Int.natAbs_natCast, String.toList_ofList]
  have member : '_' ∈ Nat.toDigits 10 place := by
    rw [← digits]
    exact holds.subset (by decide)
  exact absurd (Nat.isDigit_of_mem_toDigits (by decide) (by decide) member) (by decide)

theorem infix_selector_append_iff (id : List Char) :
    standard.sentinel.toList <:+: standard.selector.toList ++ id ↔
      standard.sentinel.toList <:+: id := by
  have selector : standard.selector.toList ++ id = '#' :: id := rfl
  rw [selector, List.infix_cons_iff]
  apply or_iff_right
  intro begins
  exact absurd (List.cons_prefix_cons.mp begins).1 (by decide)

theorem header_lacks_iff {moduleName : Option String} {command : Command}
    (texts : ∀ target, command.target = some target → ∃ id, target = .text id)
    (given : moduleName.any (· ≠ "") = true → moduleName = some command.moduleName)
    (moduleLacks : ∀ name, moduleName = some name → Lacks standard.sentinel.toList name) :
    (∀ word ∈ header standard moduleName command, ¬ standard.sentinel.toList <:+: word) ↔
      Lacks standard.sentinel.toList command.moduleName ∧
        Lacks standard.sentinel.toList command.op ∧
        ∀ target, command.target = some target →
          ∃ id, target = .text id ∧ Lacks standard.sentinel.toList id := by
  have addressLacks :
      (∀ word ∈ address standard command, ¬ standard.sentinel.toList <:+: word) ↔
        Lacks standard.sentinel.toList command.op ∧
          ∀ target, command.target = some target →
            ∃ id, target = .text id ∧ Lacks standard.sentinel.toList id := by
    cases isTarget : command.target with
    | none => simp [address, isTarget, Lacks]
    | some target =>
        obtain ⟨id, rfl⟩ := texts target isTarget
        simp [address, isTarget, Lacks, infix_selector_append_iff, and_comm]
  rw [header]
  split
  · rename_i isGiven
    rw [addressLacks]
    exact (and_iff_right (moduleLacks _ (given isGiven))).symm
  · rw [List.forall_mem_cons, addressLacks]
    rfl

theorem unescape_lacks (word : List Char) :
    Lacks standard.sentinel.toList (String.ofList (standard.unescape word)) := by
  rw [Lacks, String.toList_ofList]
  exact Text.not_infix_replaceAll ReaderSettings.isWord_sentinel_standard word

/-- Words without the sentinel have none after filling exactly if they have no blanks. -/
theorem filled_lack_iff {words : List (List Char)}
    (lacks : ∀ word ∈ words, ¬ standard.sentinel.toList <:+: word) :
    (∀ word ∈ words.map filled, ¬ standard.sentinel.toList <:+: word) ↔
      ∀ word ∈ words, ∀ c ∈ word, Text.isBlank c = false := by
  rw [List.forall_mem_map]
  exact forall₂_congr fun word member => Spans.not_infix_fillBlanks_iff (lacks word member)

theorem filled_named_lacks_iff {words : List (List Char)} {items : List Item}
    (lacks : ∀ word ∈ words, ¬ standard.sentinel.toList <:+: word)
    (grouped : Item.group words = .ok items) {key value : List Char}
    (member : .named key value ∈ items) :
    Lacks standard.sentinel.toList (String.ofList (filled key)) ↔
      ∀ c ∈ key, Text.isBlank c = false := by
  obtain ⟨word, inWords, cut⟩ := Item.cut_of_named_mem_group grouped member
  have inWord : key <:+: word := by
    rw [(Text.cutAtFirst?_eq_some cut).1]
    exact (List.prefix_append _ _).isInfix
  have keyLacks : ¬ standard.sentinel.toList <:+: key :=
    fun holds => lacks word inWords (holds.trans inWord)
  rw [Lacks, String.toList_ofList]
  exact Spans.not_infix_fillBlanks_iff keyLacks

/-- The keys and values of the parameters of filled words are texts, the values without the
sentinel, and the keys without it exactly if the names of named parameters are written
without blanks. -/
theorem params_lack_iff {words : List (List Char)} {params : Entries}
    (isWord : ∀ word ∈ words.map filled, Text.IsWord word)
    (lacks : ∀ word ∈ words, ¬ standard.sentinel.toList <:+: word)
    (folded : foldParams standard (words.map filled) = .ok params) :
    params.AreTexts (fun _ => True) (Lacks standard.sentinel.toList) ∧
      (params.AreTexts (Lacks standard.sentinel.toList) (Lacks standard.sentinel.toList) ↔
        ∀ items, Item.group words = .ok items →
          ∀ key value, .named key value ∈ items → ∀ c ∈ key, Text.isBlank c = false) := by
  rw [foldParams_eq_outcome isWord, Item.outcome, keepsMarks_filled.group_map] at folded
  cases grouped : Item.group words with
  | error opened =>
      rw [grouped] at folded
      cases folded
  | ok items =>
      rw [grouped] at folded
      obtain rfl := Except.ok.inj folded
      refine ⟨Item.areTexts_assign Entries.areTexts_nil ?_ ?_ ?_ unescape_lacks, ?_, ?_⟩
      · exact fun _ _ _ => trivial
      · exact fun _ => trivial
      · exact fun _ => trivial
      · intro free others same key value member
        cases same
        have inFilled : Item.named (filled key) (filled value) ∈ items.map (Item.map filled) :=
          List.mem_map_of_mem member
        apply (filled_named_lacks_iff lacks grouped member).mp
        exact free.of_mem_keys (Item.mem_keys_assign_of_named inFilled)
      · intro solid
        refine Item.areTexts_assign Entries.areTexts_nil ?_ unescape_lacks intText_lacks
          unescape_lacks
        intro key value member
        obtain ⟨item, inItems, same⟩ := List.mem_map.mp member
        cases item with
        | quoted words => cases same
        | bare word => cases same
        | named written content =>
            cases same
            apply (filled_named_lacks_iff lacks grouped inItems).mpr
            exact solid items rfl written content inItems

theorem readWords_isFreeOf_iff {text moduleName : Option String}
    {words : List (List Char)} {command : Command}
    (isWord : ∀ word ∈ words.map filled, Text.IsWord word)
    (lacks : ∀ word ∈ words, ¬ standard.sentinel.toList <:+: word)
    (moduleLacks : ∀ name, moduleName = some name → Lacks standard.sentinel.toList name)
    (reads : readWords standard text moduleName (words.map filled) = .ok command) :
    command.params.AreTexts (fun _ => True) (Lacks standard.sentinel.toList) ∧
      (command.IsFreeOf standard.sentinel.toList ↔ BlanksInValues moduleName words) := by
  obtain ⟨divided, given⟩ := of_readWords reads
  rw [headerSize_filled] at divided
  have headerIff := header_lacks_iff divided.target given moduleLacks
  rw [← divided.header, ← List.map_take,
    filled_lack_iff fun word member => lacks word (List.mem_of_mem_take member)] at headerIff
  have folded := divided.params
  rw [← List.map_drop] at folded
  obtain ⟨valuesLack, keysIff⟩ := params_lack_iff
    (fun word member => isWord word (List.map_subset _ (List.drop_subset _ _) member))
    (fun word member => lacks word (List.mem_of_mem_drop member)) folded
  refine ⟨valuesLack, ?_, ?_⟩
  · rintro ⟨moduleLacks, opLacks, targetLacks, paramsLack⟩
    exact ⟨headerIff.mpr ⟨moduleLacks, opLacks, targetLacks⟩, keysIff.mp paramsLack⟩
  · rintro ⟨headerSolid, keysSolid⟩
    obtain ⟨moduleLacks, opLacks, targetLacks⟩ := headerIff.mp headerSolid
    exact ⟨moduleLacks, opLacks, targetLacks, keysIff.mpr keysSolid⟩

/-- The reader of a text works on its words, filled. -/
theorem readWords_of_read {text moduleName : Option String} {letters : List Spans.Letter}
    {command : Command} (scan : Spans.Scan (text.getD "").toList letters)
    (reads : read standard text moduleName = .ok command) :
    (∀ word ∈ (Spans.keptWords letters).map filled, Text.IsWord word) ∧
      readWords standard text moduleName ((Spans.keptWords letters).map filled) =
        .ok command := by
  have plain : '\\' ∉ standard.sentinel.toList := by decide
  have words := Spans.words_written_eq ReaderSettings.isWord_sentinel_standard letters
  rw [read, ReaderSettings.escape_eq_mapBlanks plain, scan.mapBlanks_eq] at reads
  constructor
  · intro word member
    exact Text.words_solid _ word (words ▸ member)
  · simp only [words] at reads
    split at reads
    · cases reads
    · rename_i found
      cases reads
      exact found

/-- A command that was read from a text, and for a module, without the sentinel holds the
sentinel in no value; and in no other part exactly if no blank of a span stands in a word of
the header or in the key of a named parameter. -/
theorem read_isFreeOf_iff {text moduleName : Option String} {letters : List Spans.Letter}
    {command : Command} (scan : Spans.Scan (text.getD "").toList letters)
    (textLacks : Lacks standard.sentinel.toList (text.getD ""))
    (moduleLacks : ∀ name, moduleName = some name → Lacks standard.sentinel.toList name)
    (reads : read standard text moduleName = .ok command) :
    command.params.AreTexts (fun _ => True) (Lacks standard.sentinel.toList) ∧
      (command.IsFreeOf standard.sentinel.toList ↔
        BlanksInValues moduleName (Spans.keptWords letters)) := by
  obtain ⟨isWord, readsWords⟩ := readWords_of_read scan reads
  apply readWords_isFreeOf_iff isWord ?_ moduleLacks readsWords
  intro word member holds
  apply textLacks
  rw [← scan.map_char]
  exact holds.trans (Spans.isInfix_of_mem_keptWords member)

/-- Blanks in a bare word that becomes a key, in a value of its own, in the value of a named
parameter and in a bare word that becomes a value, behind pieces of the sentinel. -/
def roomyText : String := "#o op a\"_%20 c\" 'd \t e' k:\"_ 20_\" h\"i j\""

def roomyCommand : Command where
  moduleName := "m"
  op := "op"
  params := .ofTexts
    [("a\" %20_c\"", .text "d   e"), ("k", .text "\"_ 20_\""), ("4", .text "h\"i j\"")]
  target := some (.text "o")

theorem read_isFreeOf_iff_roomyText :
    Lacks standard.sentinel.toList roomyText ∧
      (∀ name, some "m" = some name → Lacks standard.sentinel.toList name) ∧
      read standard (some roomyText) (some "m") = .ok roomyCommand ∧
      ∃ letters, Spans.Scan roomyText.toList letters ∧
        roomyCommand.IsFreeOf standard.sentinel.toList ∧
        BlanksInValues (some "m") (Spans.keptWords letters) := by
  have textLacks : Lacks standard.sentinel.toList roomyText := by decide
  have moduleLacks : ∀ name, some "m" = some name → Lacks standard.sentinel.toList name := by
    rintro _ ⟨⟩
    decide
  have reads : read standard (some roomyText) (some "m") = .ok roomyCommand := rfl
  obtain ⟨letters, scan⟩ := Spans.exists_scan ((some roomyText).getD "").toList
  have free : roomyCommand.IsFreeOf standard.sentinel.toList := by
    refine ⟨by decide, by decide, ?_, ?_⟩
    · rintro _ ⟨⟩
      exact ⟨"o", rfl, by decide⟩
    · refine List.forall_mem_cons.mpr ⟨⟨⟨_, rfl, by decide⟩, _, rfl, by decide⟩, ?_⟩
      refine List.forall_mem_cons.mpr ⟨⟨⟨_, rfl, by decide⟩, _, rfl, by decide⟩, ?_⟩
      exact List.forall_mem_singleton.mpr ⟨⟨_, rfl, by decide⟩, _, rfl, by decide⟩
  have freeIff := (read_isFreeOf_iff scan textLacks moduleLacks reads).2
  exact ⟨textLacks, moduleLacks, reads, letters, scan, free, freeIff.mp free⟩

/-- The name of a named parameter keeps the sentinel. -/
theorem quoted_name_not_free :
    let text := "m op k\"a b\":v"
    let command : Command :=
      ⟨"m", "op", .ofTexts [("k\"a_%20_b\"", .text "v")], none⟩
    Lacks standard.sentinel.toList text ∧
      read standard (some text) none = .ok command ∧
      ¬ command.IsFreeOf standard.sentinel.toList := by
  refine ⟨by decide, rfl, fun free => ?_⟩
  have keyLacks : Lacks standard.sentinel.toList "k\"a_%20_b\"" :=
    free.params.of_mem_keys List.mem_cons_self
  exact absurd keyLacks (by decide)

end RichDialect

end CommandHost
