import CommandHost.Config.Model
import CommandHost.Error.Fault
import CommandHost.Proofs.Command.Escaping

/-!
# Outcomes of reading a command text

Reading a text gives a command or refuses the text.  A command that was read is
proper: it has a module and an operation, and a target only if that has an id.

In the simple dialect nothing else can happen.  In the rich dialect the sentinel is
used as a replacement template as soon as the text has a quoted span, and a sentinel
with a backslash need not be one.  The main statement says that this is the only way
in which reading can fail otherwise than by refusing the text.
-/

namespace CommandHost

/-- A command with a module and an operation, whose target, if there is one, is the id
of an object. -/
structure Command.IsProper (command : Command) : Prop where
  module_nonempty : command.moduleName ≠ ""
  op_nonempty : command.op ≠ ""
  target_nonempty : ∀ target, command.target = some target →
    ∃ id : String, target = .text id ∧ id ≠ ""

/-- The outcomes that reading a text should have: a proper command, or an error of the
class for texts that cannot be read. -/
def Disciplined : Except RichFault Command → Prop
  | .ok command => command.IsProper
  | .error fault => (Fault.command fault).className = "ParsingError"

theorem disciplined_parse (fault : ParseFault) : Disciplined (.error (.parse fault)) := rfl

/-- No illegal use of a value is an error of the class for unreadable texts. -/
theorem not_disciplined_template (cause : IllegalUse) :
    ¬ Disciplined (.error (.template cause)) := by
  change ¬ cause.className = "ParsingError"
  cases cause <;> simp [IllegalUse.className]

/-- A word is never empty, so neither is what a command takes from it. -/
theorem Text.ofList_ne_empty {word : List Char} (nonempty : word ≠ []) :
    String.ofList word ≠ "" := by
  simpa using nonempty

/-! ## The simple dialect -/

namespace SimpleDialect

variable {text : Option String} {words : List (List Char)}

theorem readOperation_disciplined {moduleName : String} (named : moduleName ≠ "")
    (nonempty : ∀ word ∈ words, word ≠ []) :
    Disciplined ((readOperation text moduleName words).mapError .parse) := by
  cases words with
  | nil => exact disciplined_parse _
  | cons op params =>
      exact {
        module_nonempty := named
        op_nonempty := Text.ofList_ne_empty (nonempty op List.mem_cons_self)
        target_nonempty := by simp }

theorem readUnnamed_disciplined (nonempty : ∀ word ∈ words, word ≠ []) :
    Disciplined ((read.readUnnamed text words).mapError .parse) := by
  cases words with
  | nil => exact disciplined_parse _
  | cons name rest =>
      have named : String.ofList name ≠ "" :=
        Text.ofList_ne_empty (nonempty name List.mem_cons_self)
      exact readOperation_disciplined named fun word member =>
        nonempty word (List.mem_cons_of_mem name member)

theorem read_disciplined (text moduleName : Option String) :
    Disciplined ((read text moduleName).mapError .parse) := by
  have nonempty : ∀ word ∈ Text.words (text.getD "").toList, word ≠ [] :=
    fun word member => (Text.words_solid _ word member).1
  unfold read
  cases moduleName with
  | none => exact readUnnamed_disciplined nonempty
  | some name =>
      by_cases unnamed : name = ""
      · simp only [unnamed, if_true]
        exact readUnnamed_disciplined nonempty
      · simp only [unnamed, if_false]
        exact readOperation_disciplined unnamed nonempty

end SimpleDialect

/-! ## The rich dialect -/

namespace RichDialect

variable {settings : ReaderSettings} {text : Option String} {words : List (List Char)}

/-- The outcome of reading words, as an outcome of reading a text. -/
def ofWords (outcome : Except ParseFault Command) : Except RichFault Command :=
  match outcome with
  | .error fault => .error (.parse fault)
  | .ok command => .ok command

theorem readOperation_disciplined {moduleName : String} {target : Option Value}
    (named : moduleName ≠ "")
    (addressed : ∀ value, target = some value → ∃ id : String, value = .text id ∧ id ≠ "")
    (nonempty : ∀ word ∈ words, word ≠ []) :
    Disciplined (ofWords (readOperation settings text moduleName target words)) := by
  cases words with
  | nil => exact disciplined_parse _
  | cons op rest =>
      rw [readOperation]
      cases foldParams settings rest with
      | error value => exact disciplined_parse _
      | ok params =>
          exact {
            module_nonempty := named
            op_nonempty := Text.ofList_ne_empty (nonempty op List.mem_cons_self)
            target_nonempty := addressed }

theorem readTarget_disciplined {moduleName : String} (named : moduleName ≠ "")
    (nonempty : ∀ word ∈ words, word ≠ []) :
    Disciplined (ofWords (readTarget settings text moduleName words)) := by
  cases words with
  | nil => exact disciplined_parse _
  | cons word rest =>
      have restNonempty : ∀ other ∈ rest, other ≠ [] := fun other member =>
        nonempty other (List.mem_cons_of_mem word member)
      unfold readTarget
      by_cases selected : settings.selector.toList.isPrefixOf word = true
      · simp only [selected, if_true]
        by_cases bare : (word.drop settings.selector.toList.length).isEmpty = true
        · simp only [bare, if_true]
          exact disciplined_parse _
        · simp only [bare]
          refine readOperation_disciplined named ?_ restNonempty
          rintro value ⟨⟩
          exact ⟨_, rfl, Text.ofList_ne_empty (by simpa using bare)⟩
      · simp only [selected]
        exact readOperation_disciplined named (by simp) nonempty

theorem readUnnamed_disciplined (nonempty : ∀ word ∈ words, word ≠ []) :
    Disciplined (ofWords (readWords.readUnnamed settings text words)) := by
  cases words with
  | nil => exact disciplined_parse _
  | cons name rest =>
      have named : String.ofList name ≠ "" :=
        Text.ofList_ne_empty (nonempty name List.mem_cons_self)
      exact readTarget_disciplined named fun word member =>
        nonempty word (List.mem_cons_of_mem name member)

theorem readWords_disciplined (settings : ReaderSettings) (text moduleName : Option String)
    (nonempty : ∀ word ∈ words, word ≠ []) :
    Disciplined (ofWords (readWords settings text moduleName words)) := by
  unfold readWords
  cases moduleName with
  | none => exact readUnnamed_disciplined nonempty
  | some name =>
      by_cases unnamed : name = ""
      · simp only [unnamed, if_true]
        exact readUnnamed_disciplined nonempty
      · simp only [unnamed, if_false]
        exact readTarget_disciplined unnamed nonempty

/-- What happens to the words of an escaped text is disciplined, so that all depends on
whether the text can be escaped. -/
theorem read_disciplined_iff_escape (settings : ReaderSettings)
    (text moduleName : Option String) :
    Disciplined (read settings text moduleName) ↔
      ∃ escaped, settings.escape (text.getD "").toList = .ok escaped := by
  unfold read
  cases settings.escape (text.getD "").toList with
  | error cause => simpa using not_disciplined_template cause
  | ok escaped =>
      have outcome :
          Disciplined (ofWords (readWords settings text moduleName (Text.words escaped))) :=
        readWords_disciplined settings text moduleName fun word member =>
          (Text.words_solid escaped word member).1
      exact iff_of_true outcome ⟨escaped, rfl⟩

end RichDialect

/-! ## Texts that cannot be escaped -/

/-- A text has a quoted span exactly if one of the quotes occurs twice. -/
theorem Spans.hasSpan_iff (text : List Char) :
    Spans.hasSpan text = true ↔ ∃ quote, isQuote quote = true ∧ 2 ≤ text.count quote := by
  induction text with
  | nil => simp [hasSpan]
  | cons c rest inductionHypothesis =>
      rw [hasSpan, Bool.or_eq_true, Bool.and_eq_true, inductionHypothesis]
      constructor
      · rintro (⟨quotes, again⟩ | ⟨quote, quotes, twice⟩)
        · refine ⟨c, quotes, ?_⟩
          have later : 0 < rest.count c := List.count_pos_iff.mpr (by simpa using again)
          rw [List.count_cons_self]
          omega
        · exact ⟨quote, quotes, twice.trans (List.count_le_count_cons ..)⟩
      · rintro ⟨quote, quotes, twice⟩
        by_cases here : c = quote
        · subst here
          rw [List.count_cons_self] at twice
          have later : 0 < rest.count c := by omega
          exact .inl ⟨quotes, by simpa using List.count_pos_iff.mp later⟩
        · rw [List.count_cons_of_ne here] at twice
          exact .inr ⟨quote, quotes, twice⟩

namespace ReaderSettings

/-- A sentinel that can take the place of a blank: one without a backslash does so as
it is, one with a backslash has to be a replacement template. -/
def CanFill (settings : ReaderSettings) : Prop :=
  '\\' ∉ settings.sentinel.toList ∨
    ∃ pieces, Template.read settings.sentinel.toList = .ok pieces

theorem exists_blankFill_iff (settings : ReaderSettings) :
    (∃ fill, settings.blankFill = .ok fill) ↔ settings.CanFill := by
  unfold blankFill CanFill
  by_cases plain : '\\' ∈ settings.sentinel.toList
  · cases read : Template.read settings.sentinel.toList with
    | error cause => simp [plain, read, Except.map]
    | ok pieces => simp [plain, read, Except.map]
  · simp [plain]

theorem exists_escape_iff (settings : ReaderSettings) (text : List Char) :
    (∃ escaped, settings.escape text = .ok escaped) ↔
      (∀ quote, isQuote quote = true → text.count quote ≤ 1) ∨ settings.CanFill := by
  have fewQuotes :
      (∀ quote, isQuote quote = true → text.count quote ≤ 1) ↔
        ¬ Spans.hasSpan text = true := by
    rw [Spans.hasSpan_iff]
    push Not
    exact forall₂_congr fun quote _ => by omega
  rw [fewQuotes, ← exists_blankFill_iff]
  unfold escape
  by_cases span : Spans.hasSpan text = true
  · cases settings.blankFill with
    | error cause => simp [span]
    | ok fill => simp [span]
  · simp [span]

end ReaderSettings

/-! ## All texts and settings -/

/-- Whatever the settings, the text and the module given are, reading in the simple
dialect gives a proper command or refuses the text.  So does reading in the rich
dialect, except for a text with a quoted span under a sentinel with a backslash that is
no replacement template. -/
theorem read_disciplined_iff (settings : ReaderSettings) (text moduleName : Option String) :
    Disciplined ((SimpleDialect.read text moduleName).mapError .parse) ∧
      (Disciplined (RichDialect.read settings text moduleName) ↔
        (∀ quote, isQuote quote = true → (text.getD "").toList.count quote ≤ 1) ∨
          settings.CanFill) :=
  ⟨SimpleDialect.read_disciplined text moduleName,
    (RichDialect.read_disciplined_iff_escape settings text moduleName).trans
      (settings.exists_escape_iff _)⟩

/-- The sentinel of a backslash and a letter is accepted as a setting, and reading a
value in quotes under it is an error of another class. -/
theorem backslash_not_disciplined :
    ReaderSettings.read (.ofTexts [("space_sentinel", .text "\\q")]) = .ok ⟨"#", "\\q"⟩ ∧
      ¬ Disciplined (RichDialect.read ⟨"#", "\\q"⟩ (some "m op \"a b\"") none) := by
  have accepted :
      ReaderSettings.read (.ofTexts [("space_sentinel", .text "\\q")]) =
        .ok ⟨"#", "\\q"⟩ := by
    decide +kernel
  have refused :
      (RichDialect.read ⟨"#", "\\q"⟩ (some "m op \"a b\"") none) =
        .error (.template .badTemplate) := by
    rfl
  rw [refused]
  exact ⟨accepted, not_disciplined_template .badTemplate⟩

end CommandHost
