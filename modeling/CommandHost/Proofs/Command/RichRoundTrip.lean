import CommandHost.Command.Rich
import CommandHost.Proofs.Command.Escaping
import Mathlib.Data.List.Forall2

/-!
# Writing and reading commands of the rich dialect

A `RichPhrase` is a command in the form in which it is written: the module,
possibly an object target, the operation, and parameters with their values in
quotes.  The main statement: reading what a fitting phrase writes gives exactly
the command that the phrase stands for.

The words of a phrase are written with `QuotedParam.written`; after filling they
are those of `QuotedParam.filled`, and the fold over the parameters takes each
pair of words back to one entry.
-/

namespace CommandHost

/-! ## Phrases -/

/-- A word of a phrase: not empty, and without blanks and quote characters. -/
def IsPlainWord (word : String) : Prop :=
  word ≠ "" ∧ ∀ c ∈ word.toList, Text.isBlank c = false ∧ isQuote c = false

/-- A parameter as it is written: a key, and a value between two quotes. -/
structure QuotedParam where
  key : String
  value : String
  quote : Char

namespace QuotedParam

/-- A content between two quotes. -/
def enclose (quote : Char) (content : List Char) : List Char :=
  quote :: (content ++ [quote])

/-- The two words of a parameter. -/
def written (param : QuotedParam) : List (List Char) :=
  [param.key.toList, enclose param.quote param.value.toList]

/-- The two words of a parameter after the blanks of its value were filled. -/
def filled (param : QuotedParam) : List (List Char) :=
  [param.key.toList,
    enclose param.quote <|
      Spans.fillBlanks (fun _ => ReaderSettings.standard.sentinel.toList)
        param.value.toList]

/-- What a parameter stands for. -/
def entry (param : QuotedParam) : String × Value := (param.key, .text param.value)

/-- A parameter that can be read back: its key is a plain word without a colon and
without the sentinel; its value does not hold the quote it stands in, has no blanks
but spaces, and does not hold the beginning of a sentinel. -/
structure Fit (param : QuotedParam) : Prop where
  key_plain : IsPlainWord param.key
  key_unnamed : nameMark ∉ param.key.toList
  key_free : ¬ ReaderSettings.standard.sentinel.toList <:+: param.key.toList
  quotes : isQuote param.quote = true
  value_unquoted : param.quote ∉ param.value.toList
  value_spaces : ∀ c ∈ param.value.toList, Text.isBlank c = true → c = ' '
  value_free : ¬ ReaderSettings.sentinelStem <:+: param.value.toList

/-- A parameter whose two words are kept apart, whatever its value is: its key is a plain
word without a colon, and its value does not hold the quote it stands in. -/
structure IsClosed (param : QuotedParam) : Prop where
  key_plain : IsPlainWord param.key
  key_unnamed : nameMark ∉ param.key.toList
  quotes : isQuote param.quote = true
  value_unquoted : param.quote ∉ param.value.toList

theorem Fit.isClosed {param : QuotedParam} (fit : param.Fit) : param.IsClosed :=
  ⟨fit.key_plain, fit.key_unnamed, fit.quotes, fit.value_unquoted⟩

end QuotedParam

/-- A command as it is written in the rich dialect. -/
structure RichPhrase where
  moduleName : String
  target : Option String
  op : String
  params : List QuotedParam

namespace RichPhrase

/-- The word of an object target. -/
def targetWord (id : String) : List Char :=
  ReaderSettings.standard.selector.toList ++ id.toList

/-- The words in front of the parameters. -/
def header (phrase : RichPhrase) : List (List Char) :=
  phrase.moduleName.toList ::
    (phrase.target.toList.map targetWord ++ [phrase.op.toList])

/-- The text of a phrase: its words, with single spaces between them. -/
def render (phrase : RichPhrase) : String :=
  String.ofList <| List.intercalate [' '] <|
    phrase.header ++ phrase.params.flatMap QuotedParam.written

/-- The command that a phrase stands for. -/
def command (phrase : RichPhrase) : Command where
  moduleName := phrase.moduleName
  op := phrase.op
  params := .ofTexts (phrase.params.map QuotedParam.entry)
  target := phrase.target.map .text

/-- A phrase that can be read back: the words of its header are plain, the operation
is not taken for a target, and its parameters are fit and have distinct keys. -/
structure Fit (phrase : RichPhrase) : Prop where
  module_plain : IsPlainWord phrase.moduleName
  target_plain : ∀ id ∈ phrase.target, IsPlainWord id
  op_plain : IsPlainWord phrase.op
  op_unselected : phrase.target = none →
    ¬ ReaderSettings.standard.selector.toList <+: phrase.op.toList
  params_fit : ∀ param ∈ phrase.params, param.Fit
  keys_nodup : (phrase.params.map QuotedParam.key).Nodup

/-- A phrase whose header can be read back: its words are plain, and the operation is not
taken for a target. -/
structure IsAddressed (phrase : RichPhrase) : Prop where
  module_plain : IsPlainWord phrase.moduleName
  target_plain : ∀ id ∈ phrase.target, IsPlainWord id
  op_plain : IsPlainWord phrase.op
  op_unselected : phrase.target = none →
    ¬ ReaderSettings.standard.selector.toList <+: phrase.op.toList

theorem Fit.isAddressed {phrase : RichPhrase} (fit : phrase.Fit) : phrase.IsAddressed :=
  ⟨fit.module_plain, fit.target_plain, fit.op_plain, fit.op_unselected⟩

theorem Fit.params_closed {phrase : RichPhrase} (fit : phrase.Fit) :
    ∀ param ∈ phrase.params, param.IsClosed :=
  fun param member => (fit.params_fit param member).isClosed

end RichPhrase

/-! ## Filling a phrase -/

open ReaderSettings (standard)

/-- How the blanks of spans are filled by the standard sentinel. -/
abbrev standardFill : Char → List Char := fun _ => standard.sentinel.toList

theorem IsPlainWord.isWord {word : String} (plain : IsPlainWord word) :
    Text.IsWord word.toList :=
  ⟨by simpa using plain.1, fun c member => (plain.2 c member).1⟩

theorem IsPlainWord.fillsTo {word : String} (plain : IsPlainWord word) :
    Spans.FillsTo standardFill word.toList word.toList :=
  Spans.mapBlanks_plain fun c member => (plain.2 c member).2

namespace QuotedParam

theorem enclose_fillsTo {quote : Char} {content : List Char}
    (quotes : isQuote quote = true) (unquoted : quote ∉ content) :
    Spans.FillsTo standardFill (enclose quote content)
      (enclose quote (Spans.fillBlanks standardFill content)) := by
  intro rest
  simpa [enclose] using Spans.mapBlanks_span quotes unquoted rest

theorem IsClosed.written_fillsTo {param : QuotedParam} (closed : param.IsClosed) :
    List.Forall₂ (Spans.FillsTo standardFill) param.written param.filled :=
  .cons closed.key_plain.fillsTo <|
    .cons (enclose_fillsTo closed.quotes closed.value_unquoted) .nil

/-- A value in quotes is one word once its blanks were filled. -/
theorem enclose_isWord {quote : Char} (quotes : isQuote quote = true)
    (content : List Char) :
    Text.IsWord (enclose quote (Spans.fillBlanks standardFill content)) := by
  refine ⟨by simp [enclose], fun c inside => ?_⟩
  simp only [enclose, List.mem_cons, List.mem_append, List.not_mem_nil,
    or_false] at inside
  rcases inside with rfl | contentMember | rfl
  · exact Spans.isBlank_of_isQuote quotes
  · have solid : ∀ x ∈ standard.sentinel.toList, Text.isBlank x = false :=
      Text.forall_mem_of_all (by decide)
    exact Spans.fillBlanks_solid (fun _ => solid) _ c contentMember
  · exact Spans.isBlank_of_isQuote quotes

theorem IsClosed.filled_isWord {param : QuotedParam} (closed : param.IsClosed) :
    ∀ token ∈ param.filled, Text.IsWord token := by
  intro token member
  simp only [filled, List.mem_cons, List.not_mem_nil, or_false] at member
  rcases member with rfl | rfl
  · exact closed.key_plain.isWord
  · exact enclose_isWord closed.quotes _

end QuotedParam

namespace RichPhrase

/-- The words of a phrase after the blanks of its values were filled. -/
def filledWords (phrase : RichPhrase) : List (List Char) :=
  phrase.header ++ phrase.params.flatMap QuotedParam.filled

theorem targetWord_fillsTo {id : String} (plain : IsPlainWord id) :
    Spans.FillsTo standardFill (targetWord id) (targetWord id) := by
  apply Spans.mapBlanks_plain
  intro c member
  rcases List.mem_append.mp member with inSelector | inId
  · have same : c = '#' := by simpa [standard] using inSelector
    simp [same, isQuote]
  · exact (plain.2 c inId).2

theorem targetWord_isWord {id : String} (plain : IsPlainWord id) :
    Text.IsWord (targetWord id) := by
  refine ⟨by simp [targetWord, standard], fun c member => ?_⟩
  rcases List.mem_append.mp member with inSelector | inId
  · have same : c = '#' := by simpa [standard] using inSelector
    subst same
    rfl
  · exact (plain.2 c inId).1

theorem IsAddressed.header_word {phrase : RichPhrase} (addressed : phrase.IsAddressed) :
    ∀ token ∈ phrase.header,
      Text.IsWord token ∧ Spans.FillsTo standardFill token token := by
  intro token member
  simp only [header, List.mem_cons, List.mem_append, List.mem_map,
    Option.mem_toList, List.not_mem_nil, or_false] at member
  rcases member with rfl | ⟨id, target, rfl⟩ | rfl
  · exact ⟨addressed.module_plain.isWord, addressed.module_plain.fillsTo⟩
  · have plain : IsPlainWord id := addressed.target_plain id target
    exact ⟨targetWord_isWord plain, targetWord_fillsTo plain⟩
  · exact ⟨addressed.op_plain.isWord, addressed.op_plain.fillsTo⟩

theorem forall₂_flatMap_written {params : List QuotedParam}
    (closed : ∀ param ∈ params, param.IsClosed) :
    List.Forall₂ (Spans.FillsTo standardFill)
      (params.flatMap QuotedParam.written) (params.flatMap QuotedParam.filled) := by
  induction params with
  | nil => exact .nil
  | cons param rest inductionHypothesis =>
      have restFills := inductionHypothesis fun other member =>
        closed other (List.mem_cons_of_mem param member)
      exact List.rel_append (closed param List.mem_cons_self).written_fillsTo restFills

/-- Filling leaves the header of a phrase alone, and fills what is written behind it. -/
theorem IsAddressed.fillsTo {phrase : RichPhrase} (addressed : phrase.IsAddressed)
    {written filled : List (List Char)}
    (fills : List.Forall₂ (Spans.FillsTo standardFill) written filled) :
    Spans.FillsTo standardFill (List.intercalate [' '] (phrase.header ++ written))
      (List.intercalate [' '] (phrase.header ++ filled)) := by
  have headerFills :
      List.Forall₂ (Spans.FillsTo standardFill) phrase.header phrase.header :=
    List.forall₂_same.mpr fun token member => (addressed.header_word token member).2
  exact Spans.fillsTo_intercalate (List.rel_append headerFills fills)

/-- Filling the text of a phrase with closed parameters leaves its header alone and fills
the values of its parameters, whatever follows. -/
theorem IsAddressed.render_fillsTo {phrase : RichPhrase} (addressed : phrase.IsAddressed)
    (closed : ∀ param ∈ phrase.params, param.IsClosed) :
    Spans.FillsTo standardFill phrase.render.toList
      (List.intercalate [' '] phrase.filledWords) := by
  rw [render, String.toList_ofList]
  exact addressed.fillsTo (forall₂_flatMap_written closed)

/-- The words that the reader cuts the filled text of a phrase into. -/
theorem IsAddressed.filledWords_isWord {phrase : RichPhrase}
    (addressed : phrase.IsAddressed)
    (closed : ∀ param ∈ phrase.params, param.IsClosed) :
    ∀ token ∈ phrase.filledWords, Text.IsWord token := by
  intro token member
  rcases List.mem_append.mp member with inHeader | inParams
  · exact (addressed.header_word token inHeader).1
  · obtain ⟨param, paramMember, inside⟩ := List.mem_flatMap.mp inParams
    exact (closed param paramMember).filled_isWord token inside

theorem Fit.mapBlanks_render {phrase : RichPhrase} (fit : phrase.Fit) :
    Spans.mapBlanks standardFill none phrase.render.toList =
      List.intercalate [' '] phrase.filledWords := by
  simpa [Spans.mapBlanks] using fit.isAddressed.render_fillsTo fit.params_closed []

theorem Fit.words_filled {phrase : RichPhrase} (fit : phrase.Fit) :
    Text.words (List.intercalate [' '] phrase.filledWords) = phrase.filledWords :=
  Text.words_intercalate (fit.isAddressed.filledWords_isWord fit.params_closed)

end RichPhrase

/-! ## Folding the parameters -/

namespace Entries

/-- A text key that holds nothing yet is assigned at the end. -/
theorem set_eq_append {entries : Entries} {key : String}
    (fresh : entries.get? key = none) (value : Value) :
    entries.set key value = entries ++ [(.text key, value)] := by
  unfold get? at fresh
  unfold set
  induction entries with
  | nil => rfl
  | cons entry rest inductionHypothesis =>
      obtain ⟨other, old⟩ := entry
      by_cases same : (Atom.text key).same other = true
      · simp [find?, same] at fresh
      · have restFresh : find? rest (.text key) = none := by
          simpa [find?, same] using fresh
        simp [assign, same, inductionHypothesis restFresh]

end Entries

namespace RichDialect

open QuotedParam (enclose)

theorem inner_enclose (quote : Char) (content : List Char) :
    inner (enclose quote content) = content := by
  simp [inner, enclose]

/-- A plain word without a colon waits for the value that follows it. -/
theorem step_key {key : String} (plain : IsPlainWord key)
    (unnamed : nameMark ∉ key.toList) (entries : Entries) (position : Nat) :
    step standard ⟨entries, none, none⟩ position key.toList =
      ⟨entries, some ⟨String.ofList (standard.unescape key.toList), position⟩, none⟩ := by
  have uncut : Text.cutAtFirst? nameMark key.toList = none :=
    Text.cutAtFirst?_eq_none_iff.mpr unnamed
  unfold step
  cases split : key.toList with
  | nil => exact absurd (by simpa using split) plain.1
  | cons first rest =>
      have firstPlain : isQuote first = false :=
        (plain.2 first (by simp [split])).2
      rw [split] at uncut
      simp only [firstPlain, Bool.false_eq_true, if_false, uncut, Option.isSome_none]

/-- A value in quotes goes to the key that waits for it, or else to its position. -/
theorem step_enclose {quote : Char} (quotes : isQuote quote = true)
    (content : List Char) (entries : Entries) (pending : Option PendingKey)
    (position : Nat) :
    step standard ⟨entries, pending, none⟩ position (enclose quote content) =
      Fold.assign ⟨entries, pending, none⟩ (standard.unescape content) position := by
  have ends : (content ++ [quote]).getLast? = some quote := by simp
  have inside : inner (quote :: (content ++ [quote])) = content :=
    inner_enclose quote content
  simp [step, enclose, quotes, ends, inside]

/-- The two words of a closed parameter become one entry. -/
theorem run_closed {param : QuotedParam} (closed : param.IsClosed) (entries : Entries)
    (position : Nat) (rest : List (List Char)) :
    run standard ⟨entries, none, none⟩ position (param.filled ++ rest) =
      run standard
        ⟨entries.set (String.ofList (standard.unescape param.key.toList))
          (.text (String.ofList
            (standard.unescape (Spans.fillBlanks standardFill param.value.toList)))),
          none, none⟩
        (position + 2) rest := by
  simp only [QuotedParam.filled, List.cons_append, List.nil_append, run]
  rw [step_key closed.key_plain closed.key_unnamed, step_enclose closed.quotes]
  rfl

theorem run_filled {param : QuotedParam} (fit : param.Fit) (entries : Entries)
    (position : Nat) (rest : List (List Char)) :
    run standard ⟨entries, none, none⟩ position (param.filled ++ rest) =
      run standard ⟨entries.set param.key (.text param.value), none, none⟩
        (position + 2) rest := by
  have unescaped :
      standard.unescape (Spans.fillBlanks standardFill param.value.toList) =
        param.value.toList :=
    ReaderSettings.unescape_fillBlanks fit.value_spaces fit.value_free
  rw [run_closed fit.isClosed, ReaderSettings.unescape_eq_self fit.key_free, unescaped,
    String.ofList_toList, String.ofList_toList]

/-- The fold takes the words of parameters with new and distinct keys back to their
entries, in order. -/
theorem run_flatMap_filled {params : List QuotedParam}
    (fit : ∀ param ∈ params, param.Fit)
    (distinct : (params.map QuotedParam.key).Nodup) (entries : Entries)
    (fresh : ∀ param ∈ params, entries.get? param.key = none) (position : Nat) :
    run standard ⟨entries, none, none⟩ position
        (params.flatMap QuotedParam.filled) =
      ⟨entries ++ Entries.ofTexts (params.map QuotedParam.entry), none, none⟩ := by
  induction params generalizing entries position with
  | nil => simp [run, Entries.ofTexts]
  | cons param rest inductionHypothesis =>
      have paramFresh : entries.get? param.key = none :=
        fresh param List.mem_cons_self
      have distinctParts := List.nodup_cons.mp distinct
      have restFresh :
          ∀ other ∈ rest,
            (entries.set param.key (.text param.value)).get? other.key = none := by
        intro other member
        have different : other.key ≠ param.key := by
          intro same
          exact distinctParts.1 (same ▸ List.mem_map_of_mem member)
        rw [Entries.get?_set, if_neg different]
        exact fresh other (List.mem_cons_of_mem param member)
      rw [List.flatMap_cons, run_filled (fit param List.mem_cons_self),
        inductionHypothesis
          (fun other member => fit other (List.mem_cons_of_mem param member))
          distinctParts.2 _ restFresh,
        Entries.set_eq_append paramFresh]
      simp [Entries.ofTexts, QuotedParam.entry]

theorem foldParams_filled {params : List QuotedParam}
    (fit : ∀ param ∈ params, param.Fit)
    (distinct : (params.map QuotedParam.key).Nodup) :
    foldParams standard (params.flatMap QuotedParam.filled) =
      .ok (Entries.ofTexts (params.map QuotedParam.entry)) := by
  have folded :=
    run_flatMap_filled fit distinct [] (fun _ _ => rfl) 1
  rw [foldParams, Fold.start, folded]
  rfl

/-- The operation and the parameters of a fitting phrase are read back for any
target. -/
theorem readOperation_filled {phrase : RichPhrase} (fit : phrase.Fit)
    (text : Option String) (moduleName : String) (target : Option Value) :
    readOperation standard text moduleName target
        (phrase.op.toList :: phrase.params.flatMap QuotedParam.filled) =
      .ok { phrase.command with moduleName, target } := by
  rw [readOperation, foldParams_filled fit.params_fit fit.keys_nodup]
  simp [RichPhrase.command]

/-- The words of a header are read as the module, the target and the operation of the
phrase, whatever follows. -/
theorem readTarget_header {phrase : RichPhrase} (addressed : phrase.IsAddressed)
    (text : Option String) (rest : List (List Char)) :
    readTarget standard text phrase.moduleName (phrase.header.tail ++ rest) =
      readOperation standard text phrase.moduleName (phrase.target.map .text)
        (phrase.op.toList :: rest) := by
  cases targeted : phrase.target with
  | none =>
      have unselected : ¬ standard.selector.toList <+: phrase.op.toList :=
        addressed.op_unselected targeted
      simp only [RichPhrase.header, targeted, Option.toList_none, List.map_nil,
        List.nil_append, List.cons_append, List.tail_cons, readTarget]
      rw [if_neg (by simpa using unselected), Option.map_none]
  | some id =>
      have plain : IsPlainWord id := addressed.target_plain id targeted
      have selected :
          standard.selector.toList.isPrefixOf (RichPhrase.targetWord id) = true := by
        simp [RichPhrase.targetWord]
      have idWord :
          (RichPhrase.targetWord id).drop standard.selector.toList.length =
            id.toList := by
        simp [RichPhrase.targetWord]
      have nonempty : id.toList.isEmpty = false := by
        simpa using plain.1
      simp only [RichPhrase.header, targeted, Option.toList_some, List.map_cons,
        List.map_nil, List.cons_append, List.nil_append, List.tail_cons, readTarget]
      rw [if_pos selected, idWord, nonempty, if_neg Bool.false_ne_true,
        String.ofList_toList, Option.map_some]

/-- Reading a text that fills to words with a header in front. -/
theorem read_of_words {phrase : RichPhrase} (addressed : phrase.IsAddressed)
    {text : String} {rest : List (List Char)}
    (words : Text.words (Spans.mapBlanks standardFill none text.toList) =
      phrase.header ++ rest) :
    read standard (some text) none =
      (readOperation standard (some text) phrase.moduleName (phrase.target.map .text)
        (phrase.op.toList :: rest)).mapError .parse := by
  have moduleFirst :
      phrase.header ++ rest =
        phrase.moduleName.toList :: (phrase.header.tail ++ rest) := rfl
  have readAll :
      readWords standard (some text) none (phrase.header ++ rest) =
        readOperation standard (some text) phrase.moduleName (phrase.target.map .text)
          (phrase.op.toList :: rest) := by
    rw [moduleFirst, readWords, readWords.readUnnamed, String.ofList_toList]
    exact readTarget_header addressed (some text) rest
  rw [read, Option.getD_some, ReaderSettings.escape_eq_mapBlanks (by decide)]
  simp only [words, readAll]
  cases readOperation standard (some text) phrase.moduleName (phrase.target.map .text)
    (phrase.op.toList :: rest) <;> rfl

theorem readTarget_filled {phrase : RichPhrase} (fit : phrase.Fit)
    (text : Option String) :
    readTarget standard text phrase.moduleName phrase.filledWords.tail =
      .ok phrase.command := by
  have tailWords :
      phrase.filledWords.tail =
        phrase.header.tail ++ phrase.params.flatMap QuotedParam.filled := rfl
  rw [tailWords, readTarget_header fit.isAddressed, readOperation_filled fit]
  rfl

/-- Reading the text of a fitting phrase gives exactly the command that the phrase
stands for. -/
theorem read_render (phrase : RichPhrase) (fit : phrase.Fit) :
    read standard (some phrase.render) none = .ok phrase.command := by
  have escaped :
      standard.escape phrase.render.toList =
        .ok (List.intercalate [' '] phrase.filledWords) := by
    rw [ReaderSettings.escape_eq_mapBlanks (by decide)]
    exact congrArg Except.ok fit.mapBlanks_render
  have moduleFirst :
      phrase.filledWords = phrase.moduleName.toList :: phrase.filledWords.tail := rfl
  have readAll :
      readWords standard (some phrase.render) none phrase.filledWords =
        .ok phrase.command := by
    rw [moduleFirst, readWords, readWords.readUnnamed, String.ofList_toList]
    exact readTarget_filled fit (some phrase.render)
  rw [read, Option.getD_some, escaped]
  simp only [fit.words_filled, readAll]

/-- A phrase whose parts look like other parts: the operation begins with the selector,
values hold colons, the other quote, spaces in a row and pieces of the sentinel, and
one value is empty. -/
def misleadingPhrase : RichPhrase where
  moduleName := "xui"
  target := some "b:1"
  op := "#set"
  params :=
    [⟨"label", "it's  a:b #x _%2 0_", '"'⟩, ⟨"note", "", '\''⟩,
      ⟨"2", " \"_%\" 20_ ", '\''⟩]

theorem read_render_misleadingPhrase :
    misleadingPhrase.Fit ∧
      read standard
          (some "xui #b:1 #set label \"it's  a:b #x _%2 0_\" note '' 2 ' \"_%\" 20_ '")
          none =
        .ok {
          moduleName := "xui"
          op := "#set"
          params :=
            .ofTexts
              [("label", .text "it's  a:b #x _%2 0_"), ("note", .text ""),
                ("2", .text " \"_%\" 20_ ")]
          target := some (.text "b:1") } := by
  have fit : misleadingPhrase.Fit := {
    module_plain := ⟨by decide, Text.forall_mem_of_all (by decide)⟩
    target_plain := by
      intro id member
      have same : id = "b:1" := by simpa [misleadingPhrase] using member.symm
      subst same
      exact ⟨by decide, Text.forall_mem_of_all (by decide)⟩
    op_plain := ⟨by decide, Text.forall_mem_of_all (by decide)⟩
    op_unselected := by simp [misleadingPhrase]
    params_fit := by
      simp only [misleadingPhrase, List.forall_mem_cons, List.not_mem_nil,
        false_imp_iff, implies_true, and_true]
      refine ⟨?_, ?_, ?_⟩
      all_goals
        exact ⟨⟨by decide, Text.forall_mem_of_all (by decide)⟩, by decide, by decide,
          by decide, by decide, Text.forall_mem_of_all (by decide), by decide⟩
    keys_nodup := by decide }
  exact ⟨fit, read_render misleadingPhrase fit⟩

end RichDialect

end CommandHost
