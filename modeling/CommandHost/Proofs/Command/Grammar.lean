import CommandHost.Error.Fault
import CommandHost.Proofs.Command.Unclosed

/-!
# The grammar of parameters

The reader of the rich dialect goes through the words of the parameters once, with a key
that waits and a value that is open.  Without such a machine the same is said in two
stages.  First the words are grouped into items: a value in quotes, which may take several
words, a named parameter, or a bare word.  Then the items are assigned in order: a bare
word is the key of the value right behind it, and a value without a key is kept under the
position of its first word.

The main statement: for every list of words the two ways have the same outcome, the same
entries in the same order or the same open value.  The induction is on the grouping, with
the bare word that waits, if there is one, put back in front of the items to come.
-/

namespace CommandHost

namespace RichDialect

/-! ## Items -/

/-- What the words of parameters are grouped into. -/
inductive Item where
  | quoted (words : List (List Char))
  | named (key value : List Char)
  | bare (word : List Char)
  deriving DecidableEq, Repr

/-- Cuts words behind the first one that ends with a quote. -/
def cutBehind? (quote : Char) :
    List (List Char) → Option (List (List Char) × List (List Char))
  | [] => none
  | word :: rest =>
    if word.getLast? = some quote then some ([word], rest)
    else (cutBehind? quote rest).map fun (inside, after) => (word :: inside, after)

theorem eq_append_of_cutBehind? {quote : Char} {words inside after : List (List Char)}
    (cut : cutBehind? quote words = some (inside, after)) : words = inside ++ after := by
  induction words generalizing inside with
  | nil => cases cut
  | cons word rest inductionHypothesis =>
      rw [cutBehind?] at cut
      split at cut
      · cases cut
        rfl
      · obtain ⟨⟨others, behind⟩, restCut, same⟩ := Option.map_eq_some_iff.mp cut
        cases same
        exact congrArg (word :: ·) (inductionHypothesis restCut)

namespace Item

/-- Groups words into items.  If a value in quotes has no end, its words are told. -/
def group : List (List Char) → Except (List (List Char)) (List Item)
  | [] => .ok []
  | word :: rest =>
    match word.head?.filter isQuote with
    | some quote =>
      if 1 < word.length ∧ word.getLast? = some quote then
        (group rest).map (.quoted [word] :: ·)
      else
        match _cut : cutBehind? quote rest with
        | none => .error (word :: rest)
        | some (inside, after) => (group after).map (.quoted (word :: inside) :: ·)
    | none =>
      match Text.cutAtFirst? nameMark word with
      | some (key, value) => (group rest).map (.named key value :: ·)
      | none => (group rest).map (.bare word :: ·)
termination_by words => words.length
decreasing_by
  · exact Nat.lt_succ_self _
  · rw [eq_append_of_cutBehind? _cut, List.length_cons, List.length_append]
    omega
  · exact Nat.lt_succ_self _
  · exact Nat.lt_succ_self _

section Group

variable {word : List Char} {rest : List (List Char)} {quote : Char}

theorem group_closed (opens : word.head?.filter isQuote = some quote)
    (closes : 1 < word.length ∧ word.getLast? = some quote) :
    group (word :: rest) = (group rest).map (.quoted [word] :: ·) := by
  rw [group, opens]
  exact if_pos closes

theorem group_unclosed (opens : word.head?.filter isQuote = some quote)
    (goesOn : ¬ (1 < word.length ∧ word.getLast? = some quote))
    (uncut : cutBehind? quote rest = none) : group (word :: rest) = .error (word :: rest) := by
  rw [group, opens]
  simp only [if_neg goesOn]
  split <;> simp_all

theorem group_spanning (opens : word.head?.filter isQuote = some quote)
    (goesOn : ¬ (1 < word.length ∧ word.getLast? = some quote))
    {inside after : List (List Char)} (cut : cutBehind? quote rest = some (inside, after)) :
    group (word :: rest) = (group after).map (.quoted (word :: inside) :: ·) := by
  rw [group, opens]
  simp only [if_neg goesOn]
  split <;> simp_all

theorem group_named (loose : word.head?.filter isQuote = none) {key value : List Char}
    (cut : Text.cutAtFirst? nameMark word = some (key, value)) :
    group (word :: rest) = (group rest).map (.named key value :: ·) := by
  rw [group, loose, cut]

theorem group_bare (loose : word.head?.filter isQuote = none)
    (uncut : Text.cutAtFirst? nameMark word = none) :
    group (word :: rest) = (group rest).map (.bare word :: ·) := by
  rw [group, loose, uncut]

end Group

/-- The number of words of an item. -/
def width : Item → Nat
  | quoted words => words.length
  | named _ _ => 1
  | bare _ => 1

/-- What an item stands for, with spaces in the place of sentinels. -/
def content (settings : ReaderSettings) : Item → List Char
  | quoted words => settings.unescape (inner (List.intercalate [' '] words))
  | named _ value => settings.unescape value
  | bare word => settings.unescape word

theorem content_quoted_single (settings : ReaderSettings) (word : List Char) :
    (quoted [word]).content settings = settings.unescape (inner word) := by
  simp [content]

/-- The value of an item. -/
def value (settings : ReaderSettings) (item : Item) : Value :=
  .text (String.ofList (item.content settings))

/-- Assigns items, the first of which stands at a position, one after another. -/
def assign (settings : ReaderSettings) (params : Entries) (position : Nat) :
    List Item → Entries
  | [] => params
  | .named key value :: rest =>
    assign settings (params.set (String.ofList key) ((named key value).value settings))
      (position + 1) rest
  | .bare key :: .bare word :: rest =>
    assign settings
      (params.set (String.ofList ((bare key).content settings)) ((bare word).value settings))
      (position + 2) rest
  | .bare key :: .quoted words :: rest =>
    assign settings
      (params.set (String.ofList ((bare key).content settings))
        ((quoted words).value settings))
      (position + 1 + words.length) rest
  | item :: rest =>
    assign settings (params.set (intText position) (item.value settings))
      (position + item.width) rest

end Item

/-! ## The machine at an item -/

variable {settings : ReaderSettings} {params : Entries} {pending : Option PendingKey}

/-- What is left when all words were read: the entries, or the value that is still open. -/
def Fold.outcome (state : Fold) : Except (List Char) Entries :=
  match state.opened with
  | some opened => .error opened.content
  | none => .ok state.flush.params

theorem head_eq_of_opens {word : List Char} {quote : Char}
    (opens : word.head?.filter isQuote = some quote) :
    isQuote quote = true ∧ ∃ letters, word = quote :: letters := by
  obtain ⟨first, quotes⟩ := Option.filter_eq_some_iff.mp opens
  exact ⟨quotes, List.head?_eq_some_iff.mp first⟩

/-- The first character of a word is not its end. -/
theorem closes_cons_iff (quote : Char) (letters : List Char) :
    (1 < (quote :: letters).length ∧ (quote :: letters).getLast? = some quote) ↔
      letters.getLast? = some quote := by
  cases letters with
  | nil => simp
  | cons second others => simp [List.getLast?_cons_cons]

theorem step_closed {word : List Char} {quote : Char}
    (opens : word.head?.filter isQuote = some quote)
    (closes : 1 < word.length ∧ word.getLast? = some quote) (position : Nat) :
    step settings ⟨params, pending, none⟩ position word =
      Fold.assign ⟨params, pending, none⟩ (settings.unescape (inner word)) position := by
  obtain ⟨quotes, letters, rfl⟩ := head_eq_of_opens opens
  have last : letters.getLast? = some quote := (closes_cons_iff quote letters).mp closes
  simp [step, quotes, last]

theorem step_unclosed {word : List Char} {quote : Char}
    (opens : word.head?.filter isQuote = some quote)
    (goesOn : ¬ (1 < word.length ∧ word.getLast? = some quote)) (position : Nat) :
    step settings ⟨params, pending, none⟩ position word =
      ⟨params, pending, some ⟨word, position, quote⟩⟩ := by
  obtain ⟨quotes, letters, rfl⟩ := head_eq_of_opens opens
  have last : ¬ letters.getLast? = some quote := mt (closes_cons_iff quote letters).mpr goesOn
  simp [step, quotes, last]

/-- The words of an open value up to its quote are given to the machine as one value. -/
theorem run_cutBehind {quote : Char} {words inside after : List (List Char)}
    (cut : cutBehind? quote words = some (inside, after)) (content : List Char)
    (opened position : Nat) :
    run settings ⟨params, pending, some ⟨content, opened, quote⟩⟩ position words =
      run settings
        (Fold.assign ⟨params, pending, none⟩
          (settings.unescape (inner (List.intercalate [' '] (content :: inside)))) opened)
        (position + inside.length) after := by
  induction words generalizing inside content position with
  | nil => cases cut
  | cons word rest inductionHypothesis =>
      rw [cutBehind?] at cut
      split at cut
      · rename_i ends
        cases cut
        simp [run, step, ends, List.intercalate_cons_cons]
      · rename_i goesOn
        obtain ⟨⟨others, behind⟩, restCut, same⟩ := Option.map_eq_some_iff.mp cut
        cases same
        have opensStill :
            step settings ⟨params, pending, some ⟨content, opened, quote⟩⟩ position word =
              ⟨params, pending, some ⟨content ++ ' ' :: word, opened, quote⟩⟩ := by
          simp [step, goesOn]
        rw [run, opensStill, inductionHypothesis restCut, intercalate_append_cons,
          List.length_cons, Nat.add_right_comm, Nat.add_assoc]

theorem forall_of_cutBehind_none {quote : Char} {words : List (List Char)}
    (uncut : cutBehind? quote words = none) : ∀ word ∈ words, word.getLast? ≠ some quote := by
  induction words with
  | nil => simp
  | cons word rest inductionHypothesis =>
      rw [cutBehind?] at uncut
      split at uncut
      · cases uncut
      · rename_i goesOn
        exact List.forall_mem_cons.mpr
          ⟨goesOn, inductionHypothesis (Option.map_eq_none_iff.mp uncut)⟩

theorem step_cut {word key value : List Char} (loose : word.head?.filter isQuote = none)
    (cut : Text.cutAtFirst? nameMark word = some (key, value)) (position : Nat) :
    step settings ⟨params, pending, none⟩ position word =
      ⟨(Fold.flush ⟨params, pending, none⟩).params.set (String.ofList key)
        ((Item.named key value).value settings), none, none⟩ := by
  cases word with
  | nil => cases cut
  | cons first letters =>
      have unquoted : isQuote first = false := by simpa using loose
      cases pending <;> simp [step, unquoted, cut, Fold.flush, Item.value, Item.content]

theorem step_uncut {word : List Char} (nonempty : word ≠ [])
    (loose : word.head?.filter isQuote = none)
    (uncut : Text.cutAtFirst? nameMark word = none) (position : Nat) :
    step settings ⟨params, pending, none⟩ position word =
      if pending.isSome then
        Fold.assign ⟨params, pending, none⟩ (settings.unescape word) position
      else ⟨params, some ⟨String.ofList (settings.unescape word), position⟩, none⟩ := by
  cases word with
  | nil => exact absurd rfl nonempty
  | cons first letters =>
      have unquoted : isQuote first = false := by simpa using loose
      simp [step, unquoted, uncut]

/-! ## The machine and the grouping -/

/-- The machine with a bare word that waits, which stands at the position, or with none. -/
def Fold.waiting (settings : ReaderSettings) (params : Entries) (position : Nat)
    (key : Option (List Char)) : Fold :=
  ⟨params, key.map fun word => ⟨String.ofList (settings.unescape word), position⟩, none⟩

theorem Fold.assign_waiting (position : Nat) (key : Option (List Char)) (value : List Char)
    (place after : Nat) :
    Fold.assign (waiting settings params position key) value place =
      waiting settings (Fold.assign (waiting settings params position key) value place).params
        after none := by
  cases key <;> rfl

namespace Item

/-- The entries that words are assigned to behind items that were grouped already, or the
words of the value that has no end. -/
def outcome (settings : ReaderSettings) (params : Entries) (position : Nat)
    (before : List Item) (words : List (List Char)) : Except (List Char) Entries :=
  match group words with
  | .error opened => .error (List.intercalate [' '] opened)
  | .ok items => .ok (assign settings params position (before ++ items))

variable {key : Option (List Char)} {position : Nat}

/-- An item that is assigned before all others leaves the outcome to what follows. -/
theorem outcome_eq_of_group {before : List Item} {words rest : List (List Char)} {item : Item}
    (grouped : group words = (group rest).map (item :: ·)) {later : Entries} {after : Nat}
    (assigned : ∀ items,
      assign settings params position (before ++ item :: items) =
        assign settings later after items) :
    outcome settings params position before words = outcome settings later after [] rest := by
  rw [outcome, outcome, grouped]
  cases group rest with
  | error opened => rfl
  | ok items => exact congrArg Except.ok (assigned items)

/-- An item that is not assigned yet can as well be counted among those before. -/
theorem outcome_append {before : List Item} {words rest : List (List Char)} {item : Item}
    (grouped : group words = (group rest).map (item :: ·)) :
    outcome settings params position before words =
      outcome settings params position (before ++ [item]) rest := by
  rw [outcome, outcome, grouped]
  cases group rest with
  | error opened => rfl
  | ok items => simp [Except.map]

theorem assign_quoted (words : List (List Char)) (items : List Item) :
    assign settings params position (key.toList.map bare ++ quoted words :: items) =
      assign settings
        (Fold.assign (Fold.waiting settings params position key)
          ((quoted words).content settings) (position + key.toList.length)).params
        (position + key.toList.length + words.length) items := by
  cases key <;> rfl

theorem assign_named (name value : List Char) (items : List Item) :
    assign settings params position (key.toList.map bare ++ named name value :: items) =
      assign settings
        ((Fold.waiting settings params position key).flush.params.set (String.ofList name)
          ((named name value).value settings))
        (position + key.toList.length + 1) items := by
  cases key <;> rfl

theorem assign_waiting (params : Entries) (position : Nat) (key : Option (List Char)) :
    assign settings params position (key.toList.map bare) =
      (Fold.waiting settings params position key).flush.params := by
  cases key <;> rfl

end Item

/-- Behind any bare word that waits, the machine assigns the items that the words to come
are grouped into. -/
theorem run_waiting_outcome {words : List (List Char)} (nonempty : ∀ word ∈ words, word ≠ [])
    (params : Entries) (position : Nat) (key : Option (List Char)) :
    (run settings (Fold.waiting settings params position key)
        (position + key.toList.length) words).outcome =
      Item.outcome settings params position (key.toList.map .bare) words := by
  -- On the grouping: behind each item, no word waits or a bare word that was read just now.
  induction words using Item.group.induct generalizing params position key with
  | case1 =>
      simp only [Item.outcome, Item.group, run, List.append_nil, Item.assign_waiting]
      rfl
  | case2 word rest quote opens closes inductionHypothesis =>
      have later := inductionHypothesis (List.forall_mem_cons.mp nonempty).2
      rw [Item.outcome_eq_of_group (Item.group_closed opens closes)
        fun items => Item.assign_quoted [word] items, Item.content_quoted_single, run,
        Fold.waiting, step_closed opens closes, ← Fold.waiting,
        Fold.assign_waiting _ _ _ _ (position + key.toList.length + 1)]
      exact later _ _ none
  | case3 word rest quote opens goesOn uncut =>
      have isOpen :
          (step settings (Fold.waiting settings params position key)
            (position + key.toList.length) word).opened =
              some ⟨word, position + key.toList.length, quote⟩ := by
        rw [Fold.waiting, step_unclosed opens goesOn]
      rw [Item.outcome, Item.group_unclosed opens goesOn uncut, run, Fold.outcome,
        run_opened isOpen (forall_of_cutBehind_none uncut)]
  | case4 word rest quote opens goesOn inside after cut inductionHypothesis =>
      have afterNonempty : ∀ other ∈ after, other ≠ [] := by
        intro other member
        apply nonempty other
        rw [eq_append_of_cutBehind? cut]
        exact List.mem_cons_of_mem word (List.mem_append_right inside member)
      have later := inductionHypothesis afterNonempty
      have next :
          position + key.toList.length + 1 + inside.length =
            position + key.toList.length + (word :: inside).length := by
        rw [List.length_cons]
        omega
      rw [Item.outcome_eq_of_group (Item.group_spanning opens goesOn cut)
          fun items => Item.assign_quoted (word :: inside) items,
        run, Fold.waiting, step_unclosed opens goesOn, run_cutBehind cut, ← Fold.waiting, next,
        Fold.assign_waiting _ _ _ _ (position + key.toList.length + (word :: inside).length)]
      exact later _ _ none
  | case5 word rest loose name value cut inductionHypothesis =>
      have later := inductionHypothesis (List.forall_mem_cons.mp nonempty).2
      rw [Item.outcome_eq_of_group (Item.group_named loose cut)
          fun items => Item.assign_named name value items,
        run, Fold.waiting, step_cut loose cut]
      exact later _ _ none
  | case6 word rest loose uncut inductionHypothesis =>
      have later := inductionHypothesis (List.forall_mem_cons.mp nonempty).2
      rw [run, Fold.waiting, step_uncut (List.forall_mem_cons.mp nonempty).1 loose uncut]
      cases key with
      | none =>
          rw [Item.outcome_append (Item.group_bare loose uncut)]
          exact later params position (some word)
      | some key =>
          rw [Item.outcome_eq_of_group (Item.group_bare loose uncut) fun items => rfl]
          exact later _ (position + 2) none

theorem foldParams_eq_outcome {words : List (List Char)}
    (isWord : ∀ word ∈ words, Text.IsWord word) :
    foldParams settings words = Item.outcome settings [] 1 [] words :=
  run_waiting_outcome (fun word member => (isWord word member).1) [] 1 none

/-- For every sentinel, folding words gives what grouping them and then assigning the items
gives.  A value in quotes that has no end is refused, and its words are told. -/
theorem foldParams_eq_assign (settings : ReaderSettings) {words : List (List Char)}
    (isWord : ∀ word ∈ words, Text.IsWord word) :
    foldParams settings words =
        (match Item.group words with
        | .error opened => .error (List.intercalate [' '] opened)
        | .ok items => .ok (Item.assign settings [] 1 items)) ∧
      ∀ opened, Item.group words = .error opened →
        ∀ (text : Option String) (moduleName : String) (target : Option Value)
          (op : List Char), ∃ fault : ParseFault,
          readOperation settings text moduleName target (op :: words) = .error fault ∧
            (Fault.command (.parse fault)).className = "ParsingError" ∧
            fault = .unclosedValue text moduleName
              (String.ofList (List.intercalate [' '] opened)) := by
  have folded : foldParams settings words = Item.outcome settings [] 1 [] words :=
    foldParams_eq_outcome isWord
  refine ⟨folded, fun opened unclosed text moduleName target op => ⟨_, ?_, rfl, rfl⟩⟩
  rw [Item.outcome, unclosed] at folded
  rw [readOperation, folded]

/-- Values of several words, one of which looks like a named parameter and one of which is a
quote alone, keys that are positions, and bare words that wait for nothing. -/
theorem foldParams_eq_assign_jumble :
    let words := ["a", "\"x", "k:v", "y_%20_\"", "8:z", "b_%20_c", "9:", "'q'", "'", "d",
      "e'", "last"].map String.toList
    (∀ word ∈ words, Text.IsWord word) ∧
      Item.group words =
        .ok [.bare "a".toList, .quoted ["\"x".toList, "k:v".toList, "y_%20_\"".toList],
          .named "8".toList "z".toList, .bare "b_%20_c".toList, .named "9".toList [],
          .quoted ["'q'".toList], .quoted ["'".toList, "d".toList, "e'".toList],
          .bare "last".toList] ∧
      foldParams ReaderSettings.standard words =
        .ok (.ofTexts [("a", .text "x k:v y "), ("8", .text "q"), ("6", .text "b c"),
          ("9", .text " d e"), ("12", .text "last")]) := by
  intro words
  have isWord : ∀ word ∈ words, Text.IsWord word := by
    have solid : words.all (fun word => !word.isEmpty && word.all (!Text.isBlank ·)) = true :=
      rfl
    intro word member
    simpa [Text.IsWord] using List.all_eq_true.mp solid word member
  have grouped :
      Item.group words =
        .ok [.bare "a".toList, .quoted ["\"x".toList, "k:v".toList, "y_%20_\"".toList],
          .named "8".toList "z".toList, .bare "b_%20_c".toList, .named "9".toList [],
          .quoted ["'q'".toList], .quoted ["'".toList, "d".toList, "e'".toList],
          .bare "last".toList] := by
    cbv
  have folded := (foldParams_eq_assign ReaderSettings.standard isWord).1
  rw [grouped] at folded
  exact ⟨isWord, grouped, folded⟩

end RichDialect

end CommandHost
