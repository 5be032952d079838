import CommandHost.Error.Fault
import CommandHost.Proofs.Command.Overlap

/-!
# Values that are never closed

A text can stop in the midst of a value: a quote stands behind the parameters of a phrase
and does not occur again.  The quotes in front of it are paired among themselves, so it
opens no span, and whatever follows it, pairs of the other quote included, is filled and
cut into words none of which ends with it.  The main statement says that such a text is
refused, with the value as far as it was read.
-/

namespace CommandHost

namespace Spans

variable {fill : Char → List Char}

/-- A quote that does not occur again opens no span. -/
theorem mapBlanks_lone {quote : Char} {content : List Char} (absent : quote ∉ content) :
    mapBlanks fill none (quote :: content) = quote :: mapBlanks fill none content := by
  rw [mapBlanks]
  simp [absent]

/-- Filling brings in no characters but those it fills with. -/
theorem mem_of_mem_mapBlanks {opened : Option Char} {text : List Char} {c : Char}
    (member : c ∈ mapBlanks fill opened text) : c ∈ text ∨ ∃ blank, c ∈ fill blank := by
  induction text generalizing opened with
  | nil => cases opened <;> simp [mapBlanks] at member
  | cons first rest inductionHypothesis =>
      have later {state : Option Char} (inside : c ∈ mapBlanks fill state rest) :
          c ∈ first :: rest ∨ ∃ blank, c ∈ fill blank :=
        (inductionHypothesis inside).imp_left (List.mem_cons_of_mem first)
      cases opened with
      | none =>
          rw [mapBlanks] at member
          rcases List.mem_cons.mp member with rfl | inside
          · exact .inl List.mem_cons_self
          · exact later inside
      | some quote =>
          rw [mapBlanks] at member
          split at member
          · rcases List.mem_cons.mp member with rfl | inside
            · exact .inl List.mem_cons_self
            · exact later inside
          · rcases List.mem_append.mp member with here | inside
            · split at here
              · exact .inr ⟨first, here⟩
              · exact .inl (by simpa using .inl (List.mem_singleton.mp here))
            · exact later inside

/-- The standard filling holds no quotes. -/
theorem not_mem_mapBlanks {quote : Char} (quotes : isQuote quote = true)
    {text : List Char} (absent : quote ∉ text) :
    quote ∉ mapBlanks standardFill none text := by
  intro member
  rcases mem_of_mem_mapBlanks member with inside | ⟨blank, inside⟩
  · exact absent inside
  · have unquoted : ∀ c ∈ ReaderSettings.standard.sentinel.toList, isQuote c = false :=
      Text.forall_mem_of_all (by decide)
    simp [unquoted quote inside] at quotes

end Spans

namespace RichDialect

open ReaderSettings (standard)

variable {settings : ReaderSettings}

/-! ## Folding an open value -/

/-- A word that begins with a quote and does not hold it again opens a value. -/
theorem step_opens {quote : Char} (quotes : isQuote quote = true) {rest : List Char}
    (absent : quote ∉ rest) (entries : Entries) (position : Nat) :
    step settings ⟨entries, none, none⟩ position (quote :: rest) =
      ⟨entries, none, some ⟨quote :: rest, position, quote⟩⟩ := by
  have goesOn : rest.getLast? ≠ some quote := fun last =>
    absent (List.mem_of_getLast? last)
  simp [step, quotes, goesOn]

theorem intercalate_append_cons (content word : List Char) (rest : List (List Char)) :
    List.intercalate [' '] ((content ++ ' ' :: word) :: rest) =
      List.intercalate [' '] (content :: word :: rest) := by
  cases rest with
  | nil => simp [List.intercalate_cons_cons]
  | cons second others => simp [List.intercalate_cons_cons]

/-- Words that do not end with the quote of an open value go on with it. -/
theorem run_opened {state : Fold} {opened : OpenValue} (isOpen : state.opened = some opened)
    {words : List (List Char)} (never : ∀ word ∈ words, word.getLast? ≠ some opened.quote)
    (position : Nat) :
    (run settings state position words).opened =
      some { opened with content := List.intercalate [' '] (opened.content :: words) } := by
  induction words generalizing state opened position with
  | nil => simp [run, isOpen]
  | cons word rest inductionHypothesis =>
      have goesOn : word.getLast? ≠ some opened.quote := never word List.mem_cons_self
      have stepOpened :
          (step settings state position word).opened =
            some { opened with content := opened.content ++ ' ' :: word } := by
        simp [step, isOpen, goesOn]
      rw [run, inductionHypothesis stepOpened
        fun other member => never other (List.mem_cons_of_mem word member)]
      simp only [intercalate_append_cons]

/-- Closed parameters leave nothing that waits and nothing open. -/
theorem run_flatMap_closed {params : List QuotedParam}
    (closed : ∀ param ∈ params, param.IsClosed) (entries : Entries) (position : Nat)
    (rest : List (List Char)) :
    ∃ assigned after,
      run standard ⟨entries, none, none⟩ position
          (params.flatMap QuotedParam.filled ++ rest) =
        run standard ⟨assigned, none, none⟩ after rest := by
  induction params generalizing entries position with
  | nil => exact ⟨entries, position, rfl⟩
  | cons param others inductionHypothesis =>
      rw [List.flatMap_cons, List.append_assoc, run_closed (closed param List.mem_cons_self)]
      exact inductionHypothesis
        (fun other member => closed other (List.mem_cons_of_mem param member)) _ _

/-- Closed parameters with an open value behind them are refused. -/
theorem foldParams_unclosed {params : List QuotedParam}
    (closed : ∀ param ∈ params, param.IsClosed) {quote : Char}
    (quotes : isQuote quote = true) {first : List Char} {later : List (List Char)}
    (absentFirst : quote ∉ first) (absentLater : ∀ word ∈ later, quote ∉ word) :
    foldParams standard (params.flatMap QuotedParam.filled ++ (quote :: first) :: later) =
      .error (List.intercalate [' '] ((quote :: first) :: later)) := by
  obtain ⟨assigned, position, closedRun⟩ :=
    run_flatMap_closed closed [] 1 ((quote :: first) :: later)
  have opened :
      (run standard ⟨assigned, none, none⟩ position ((quote :: first) :: later)).opened =
        some ⟨List.intercalate [' '] ((quote :: first) :: later), position, quote⟩ := by
    have isOpen :
        (⟨assigned, none, some ⟨quote :: first, position, quote⟩⟩ : Fold).opened =
          some ⟨quote :: first, position, quote⟩ := rfl
    have never : ∀ word ∈ later, word.getLast? ≠ some quote := fun word member last =>
      absentLater word member (List.mem_of_getLast? last)
    rw [run, step_opens quotes absentFirst]
    exact run_opened isOpen never (position + 1)
  rw [foldParams, Fold.start, closedRun]
  simp only [opened]

end RichDialect

/-! ## Texts with an open value -/

namespace RichPhrase

open ReaderSettings (standard)

/-- The text of a phrase with a quote behind it, and what follows the quote. -/
def renderOpen (phrase : RichPhrase) (quote : Char) (content : String) : String :=
  phrase.render ++ " " ++ String.singleton quote ++ content

/-- The words of a value that is not closed: its blanks are filled inside the spans of the
other quote only. -/
def openWords (quote : Char) (content : String) : List (List Char) :=
  Text.words (quote :: Spans.mapBlanks standardFill none content.toList)

/-- An open value begins with a word that begins with its quote, and the quote does not
occur again. -/
theorem exists_openWords {quote : Char} (quotes : isQuote quote = true) {content : String}
    (absent : quote ∉ content.toList) :
    ∃ first later,
      openWords quote content = (quote :: first) :: later ∧ quote ∉ first ∧
        ∀ word ∈ later, quote ∉ word := by
  have solid : Text.isBlank quote = false := Spans.isBlank_of_isQuote quotes
  have filledAbsent := Spans.not_mem_mapBlanks quotes absent
  have cut := Text.words_cons_solid solid (Spans.mapBlanks standardFill none content.toList)
  rw [List.takeWhile_cons_of_pos (by simp [solid]),
    List.dropWhile_cons_of_pos (by simp [solid])] at cut
  refine ⟨_, _, cut, fun member => ?_, fun word isWord member => ?_⟩
  · exact filledAbsent ((List.takeWhile_prefix _).subset member)
  · have inside := (Text.isInfix_of_mem_words _ word isWord).subset member
    exact filledAbsent ((List.dropWhile_suffix _).subset inside)

/-- The reader cuts a text with an open value into the words of the phrase and those of the
value. -/
theorem words_renderOpen {phrase : RichPhrase} (addressed : phrase.IsAddressed)
    (closed : ∀ param ∈ phrase.params, param.IsClosed) {quote : Char} {content : String}
    (absent : quote ∉ content.toList) :
    Text.words (Spans.mapBlanks standardFill none (phrase.renderOpen quote content).toList) =
      phrase.filledWords ++ openWords quote content := by
  have spaced :
      Spans.mapBlanks standardFill none (' ' :: quote :: content.toList) =
        ' ' :: quote :: Spans.mapBlanks standardFill none content.toList := by
    rw [Spans.mapBlanks, ← Spans.mapBlanks_lone absent]
    rfl
  have text :
      (phrase.renderOpen quote content).toList =
        phrase.render.toList ++ ' ' :: quote :: content.toList := by
    simp [renderOpen]
  rw [text, addressed.render_fillsTo closed, spaced,
    Text.words_intercalate_append (addressed.filledWords_isWord closed) (by simp [Text.isBlank]),
    Text.words_cons_blank (by decide), openWords]

end RichPhrase

namespace RichDialect

open ReaderSettings (standard)

/-- A quote behind a phrase that does not occur again is never closed: reading refuses the
text, and tells the value as far as there is one. -/
theorem read_renderOpen (phrase : RichPhrase) (addressed : phrase.IsAddressed)
    (closed : ∀ param ∈ phrase.params, param.IsClosed) {quote : Char}
    (quotes : isQuote quote = true) {content : String} (absent : quote ∉ content.toList) :
    ∃ fault : ParseFault,
      read standard (some (phrase.renderOpen quote content)) none = .error (.parse fault) ∧
        (Fault.command (.parse fault)).className = "ParsingError" ∧
        fault = .unclosedValue (some (phrase.renderOpen quote content)) phrase.moduleName
          (String.ofList (List.intercalate [' '] (RichPhrase.openWords quote content))) := by
  obtain ⟨first, later, openWords, absentFirst, absentLater⟩ :=
    RichPhrase.exists_openWords quotes absent
  have words := RichPhrase.words_renderOpen addressed closed absent
  rw [RichPhrase.filledWords, List.append_assoc] at words
  refine ⟨_, ?_, rfl, rfl⟩
  rw [read_of_words addressed words, readOperation, openWords,
    foldParams_unclosed closed quotes absentFirst absentLater]
  rfl

/-- A phrase whose values hold the quotes of one another. -/
def entangledPhrase : RichPhrase where
  moduleName := "xui"
  target := some "b:1"
  op := "#set"
  params := [⟨"a_%20_b", "it's \t x:y", '"'⟩, ⟨"c", "\"", '\''⟩]

theorem read_renderOpen_entangled :
    entangledPhrase.IsAddressed ∧
      (∀ param ∈ entangledPhrase.params, param.IsClosed) ∧
      isQuote '\'' = true ∧ '\'' ∉ "open  \"two words\" k:v".toList ∧
      read standard
          (some "xui #b:1 #set a_%20_b \"it's \t x:y\" c '\"' 'open  \"two words\" k:v") none =
        .error (.parse (.unclosedValue
          (some "xui #b:1 #set a_%20_b \"it's \t x:y\" c '\"' 'open  \"two words\" k:v")
          "xui" "'open \"two_%20_words\" k:v")) := by
  have addressed : entangledPhrase.IsAddressed := {
    module_plain := ⟨by decide, Text.forall_mem_of_all (by decide)⟩
    target_plain := by
      intro id member
      have same : id = "b:1" := by simpa [entangledPhrase] using member.symm
      subst same
      exact ⟨by decide, Text.forall_mem_of_all (by decide)⟩
    op_plain := ⟨by decide, Text.forall_mem_of_all (by decide)⟩
    op_unselected := by simp [entangledPhrase] }
  have closed : ∀ param ∈ entangledPhrase.params, param.IsClosed := by
    simp only [entangledPhrase, List.forall_mem_cons, List.not_mem_nil, false_imp_iff,
      implies_true, and_true]
    constructor
    all_goals
      exact ⟨⟨by decide, Text.forall_mem_of_all (by decide)⟩, by decide, by decide, by decide⟩
  have absent : '\'' ∉ "open  \"two words\" k:v".toList := by decide
  obtain ⟨fault, refused, -, isUnclosed⟩ :=
    read_renderOpen entangledPhrase addressed closed (by decide) absent
  subst isUnclosed
  exact ⟨addressed, closed, by decide, absent, refused⟩

end RichDialect

end CommandHost
