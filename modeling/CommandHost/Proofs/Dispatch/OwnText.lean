import CommandHost.Proofs.Command.SimpleRoundTrip
import CommandHost.Proofs.Dispatch.Separation
import CommandHost.World.Frames

/-!
# Texts for a module of its own

A text for a module need not begin with the name of the module: the name is put in front
unless it is there.  What is put together is cut into words afterwards, so the name takes
part in the cutting.  The main statement: a module understands all texts that name an
operation, with or without its own name in front, exactly if its name is one word.  A name
with a blank in it is accepted all the same.
-/

namespace CommandHost

/-! ## Reading by words -/

namespace SimpleDialect

variable {text name : String} {op : List Char} {rest : List (List Char)}

/-- The command of words behind the module. -/
def commandOf (name : String) (op : List Char) (rest : List (List Char)) : Command where
  moduleName := name
  op := String.ofList op
  params := assignParams [] 1 rest
  target := none

theorem read_of_words {first : List Char}
    (words : Text.words text.toList = first :: op :: rest) :
    read (some text) none = .ok (commandOf (String.ofList first) op rest) := by
  simp only [read, Option.getD_some, words, read.readUnnamed, readOperation, commandOf]

theorem read_given_of_words (nonempty : name ≠ "") (words : Text.words text.toList = op :: rest) :
    read (some text) (some name) = .ok (commandOf name op rest) := by
  simp only [read, Option.getD_some, words, if_neg nonempty, readOperation, commandOf]

end SimpleDialect

namespace World

variable {V : Vocabulary}

/-- The words of a text that was given the name of its module. -/
theorem words_addressed (name text : String) :
    Text.words (addressed name text).toList =
      if (Text.words text.toList).head? = some name.toList then Text.words text.toList
      else Text.words name.toList ++ Text.words text.toList := by
  have stripped : Text.words (Text.stripString text).toList = Text.words text.toList := by
    rw [Text.stripString, String.toList_ofList, Text.words_strip]
  have spaced : (name ++ " " ++ Text.stripString text).toList =
      name.toList ++ ' ' :: (Text.stripString text).toList := by
    simp
  rw [addressed, stripped]
  split
  · exact stripped
  · rw [spaced, Text.words_append_cons_blank _ (by decide), stripped]

/-- A text whose words, with the name of the module, are read as a command is executed as this
command. -/
theorem runIn_of_words (host : Host V) {world : World V} {place : Nat} {text : String}
    {first op : List Char} {rest : List (List Char)}
    (words : Text.words (addressed (world.moduleOf place).name text).toList =
      first :: op :: rest)
    (solid : Text.isBlankText text.toList = false) :
    (runIn host place (some text) false).run world =
      (executeIn host place
        (SimpleDialect.commandOf (String.ofList first) op rest)).run world := by
  unfold runIn
  rw [run_bind_ok (EStateM.run_get world)]
  simp only [Option.getD_some, solid, Bool.false_eq_true, if_false, readCommand,
    SimpleDialect.read_of_words words]
  rfl

/-- A module without an operation refuses it in a world that stays as it is. -/
theorem executeIn_unknown (host : Host V) {world : World V} {place : Nat} {name : String}
    {op : List Char} {rest : List (List Char)} (nonempty : op ≠ [])
    (missing : (world.moduleOf place).operations.find? (String.ofList op) = none) :
    (executeIn host place (SimpleDialect.commandOf name op rest)).run world =
      .error (.unknownOperation (world.moduleOf place).name (String.ofList op)) world := by
  have named : String.ofList op ≠ "" := by simpa using nonempty
  have addressed : (SimpleDialect.commandOf name op rest).target =
      (none : Option String).map Value.text := rfl
  rw [executeIn_run host world place addressed]
  simp only [routeIn, SimpleDialect.commandOf, if_neg named, properId, missing, follow]

/-! ## Modules that understand their texts -/

/-- A word that can name an operation in the texts of a module. -/
structure IsOpWord (name op : String) : Prop where
  isWord : Text.IsWord op.toList
  unmarked : nameMark ∉ op.toList
  apart : op ≠ name

/-- Modules of a name understand their own texts: what one does with a text that names an
operation, with the name of the module in front or without it, is what it does with the
command that the text is read as when the module is given apart. -/
def UnderstandsOwnTexts (name : String) : Prop :=
  ∀ (V : Vocabulary) (host : Host V) (world : World V) (place : Nat),
    (world.moduleOf place).name = name → ∀ op params : String, IsOpWord name op →
      ∃ command,
        SimpleDialect.read (some (op ++ " " ++ params)) (some name) = .ok command ∧
        (runIn host place (some (op ++ " " ++ params)) false).run world =
          (executeIn host place command).run world ∧
        (runIn host place (some (name ++ " " ++ op ++ " " ++ params)) false).run world =
          (executeIn host place command).run world

variable {name op : String}

/-- The constructor refuses blank names only. -/
theorem makeModule_accepts_iff {kind : ModuleClass V} {context : Nat} {world : World V} :
    (∃ place made, (makeModule kind name context).run world = .ok place made) ↔
      Text.isBlankText name.toList = false := by
  rw [makeModule]
  cases Text.isBlankText name.toList with
  | true =>
      simp only [if_true, Bool.true_eq_false, iff_false]
      rintro ⟨place, made, impossible⟩
      cases impossible
  | false => exact iff_of_true ⟨_, _, rfl⟩ rfl

theorem words_op_append (isWord : Text.IsWord op.toList) (params : String) :
    Text.words (op ++ " " ++ params).toList = op.toList :: Text.words params.toList := by
  have spaced : (op ++ " " ++ params).toList = op.toList ++ ' ' :: params.toList := by simp
  rw [spaced, Text.words_append isWord (by simp [Text.isBlank]),
    Text.words_cons_blank (by decide)]

theorem words_name_append (name text : String) :
    Text.words (name ++ " " ++ text).toList =
      Text.words name.toList ++ Text.words text.toList := by
  have spaced : (name ++ " " ++ text).toList = name.toList ++ ' ' :: text.toList := by simp
  rw [spaced, Text.words_append_cons_blank _ (by decide)]

theorem isBlankText_of_words {text first : List Char} {rest : List (List Char)}
    (words : Text.words text = first :: rest) : Text.isBlankText text = false := by
  rw [Bool.eq_false_iff, ne_eq, ← Text.words_eq_nil_iff, words]
  exact List.cons_ne_nil first rest

/-- A module whose name is one word understands its texts: of two names in front of the
operation there is always one. -/
theorem understandsOwnTexts_of_isWord (isWord : Text.IsWord name.toList) :
    UnderstandsOwnTexts name := by
  rintro V host world place rfl op params opWord
  have nonempty : (world.moduleOf place).name ≠ "" := by simpa using isWord.1
  have bare := words_op_append opWord.isWord params
  have full :
      Text.words ((world.moduleOf place).name ++ " " ++ op ++ " " ++ params).toList =
        (world.moduleOf place).name.toList :: op.toList :: Text.words params.toList := by
    have regrouped :
        (world.moduleOf place).name ++ " " ++ op ++ " " ++ params =
          (world.moduleOf place).name ++ " " ++ (op ++ " " ++ params) := by
      simp only [String.append_assoc]
    rw [regrouped, words_op_append isWord, bare]
  have apart : op.toList ≠ (world.moduleOf place).name.toList := fun same =>
    opWord.apart (String.toList_inj.mp same)
  have alone : Text.words (world.moduleOf place).name.toList =
      [(world.moduleOf place).name.toList] := Text.words_of_isWord isWord
  have bareAddressed :
      Text.words (addressed (world.moduleOf place).name (op ++ " " ++ params)).toList =
        (world.moduleOf place).name.toList :: op.toList :: Text.words params.toList := by
    rw [words_addressed, bare, alone, if_neg (by simpa using apart)]
    rfl
  have fullAddressed :
      Text.words (addressed (world.moduleOf place).name
          ((world.moduleOf place).name ++ " " ++ op ++ " " ++ params)).toList =
        (world.moduleOf place).name.toList :: op.toList :: Text.words params.toList := by
    rw [words_addressed, full, List.head?_cons, if_pos rfl]
  refine ⟨_, SimpleDialect.read_given_of_words nonempty bare, ?_, ?_⟩
  · rw [runIn_of_words host bareAddressed (isBlankText_of_words bare),
      String.ofList_toList]
  · rw [runIn_of_words host fullAddressed (isBlankText_of_words full),
      String.ofList_toList]

/-! ## Names with blanks -/

/-- A world with one module, which has no operations. -/
def bareWorld (name : String) : World Scenario.vocabulary :=
  { Scenario.startWorld .standard false with modules := #[⟨name, 0, .empty, [], [], none⟩] }

theorem executeIn_bareWorld (name other : String) {op : List Char} (nonempty : op ≠ [])
    (rest : List (List Char)) :
    (executeIn (Scenario.hostOf []) 0 (SimpleDialect.commandOf other op rest)).run
        (bareWorld name) =
      .error (.unknownOperation name (String.ofList op)) (bareWorld name) := by
  have missing : ((bareWorld name).moduleOf 0).operations.find? (String.ofList op) = none := rfl
  exact executeIn_unknown (Scenario.hostOf []) nonempty missing

/-- A name with a blank in it is none of its words, so it is put in front of a text that
begins with it, and a word of the name stands where the operation should. -/
theorem exists_words_addressed_twice (accepted : Text.isBlankText name.toList = false)
    {c : Char} (member : c ∈ name.toList) (blank : Text.isBlank c = true) :
    ∃ first second, Text.IsWord second ∧ ∀ text : String, ∃ rest,
      Text.words (addressed name (name ++ " " ++ text)).toList = first :: second :: rest := by
  have split : ∀ word ∈ Text.words name.toList, word ≠ name.toList := by
    rintro word inName rfl
    have solid := (Text.words_solid _ _ inName).2 c member
    rw [blank] at solid
    cases solid
  cases words : Text.words name.toList with
  | nil =>
      rw [Text.words_eq_nil_iff.mp words] at accepted
      cases accepted
  | cons first others =>
      have firstSolid := Text.words_solid name.toList first (by simp [words])
      have twice : ∀ text : String,
          Text.words (addressed name (name ++ " " ++ text)).toList =
            first :: (others ++ first :: (others ++ Text.words text.toList)) := by
        intro text
        have different : first ≠ name.toList := split first (by simp [words])
        rw [words_addressed, words_name_append, words, List.cons_append, List.head?_cons,
          if_neg (by simpa using different)]
        rfl
      cases others with
      | nil => exact ⟨first, first, firstSolid, fun text => ⟨_, twice text⟩⟩
      | cons second more =>
          have secondSolid := Text.words_solid name.toList second (by simp [words])
          exact ⟨first, second, secondSolid, fun text => ⟨_, twice text⟩⟩

theorem exists_op_apart (second : List Char) :
    ∃ op : String, Text.IsWord op.toList ∧ nameMark ∉ op.toList ∧ String.ofList second ≠ op := by
  have plain : ∀ op ∈ ["x", "y"], Text.IsWord op.toList ∧ nameMark ∉ op.toList := by
    simp only [List.forall_mem_cons]
    exact ⟨⟨⟨by decide, Text.forall_mem_of_all (by decide)⟩, by decide⟩,
      ⟨⟨by decide, Text.forall_mem_of_all (by decide)⟩, by decide⟩, by simp⟩
  by_cases same : String.ofList second = "x"
  · obtain ⟨isWord, unmarked⟩ := plain "y" (by simp)
    exact ⟨"y", isWord, unmarked, same ▸ by decide⟩
  · obtain ⟨isWord, unmarked⟩ := plain "x" (by simp)
    exact ⟨"x", isWord, unmarked, same⟩

/-- A module without operations whose name has a blank in it tells that it does not know a
word of its name, instead of the operation. -/
theorem not_understandsOwnTexts_of_blank (accepted : Text.isBlankText name.toList = false)
    {c : Char} (member : c ∈ name.toList) (blank : Text.isBlank c = true) :
    ¬ UnderstandsOwnTexts name := by
  intro understands
  obtain ⟨first, second, secondWord, twice⟩ :=
    exists_words_addressed_twice accepted member blank
  obtain ⟨op, isWord, unmarked, different⟩ := exists_op_apart second
  have apart : op ≠ name := by
    rintro rfl
    rw [isWord.2 c member] at blank
    cases blank
  obtain ⟨command, read, -, same⟩ :=
    understands _ (Scenario.hostOf []) (bareWorld name) 0 rfl op "" ⟨isWord, unmarked, apart⟩
  have nonempty : name ≠ "" := by
    rintro rfl
    cases accepted
  rw [SimpleDialect.read_given_of_words nonempty (words_op_append isWord "")] at read
  obtain rfl := Except.ok.inj read
  have regrouped : name ++ " " ++ op ++ " " ++ "" = name ++ " " ++ (op ++ " " ++ "") := by
    simp only [String.append_assoc]
  obtain ⟨rest, words⟩ : ∃ rest, Text.words
      (addressed ((bareWorld name).moduleOf 0).name (name ++ " " ++ (op ++ " " ++ ""))).toList =
        first :: second :: rest := twice (op ++ " " ++ "")
  have solid : Text.isBlankText (name ++ " " ++ (op ++ " " ++ "")).toList = false := by
    rw [String.append_assoc, String.toList_append, Text.isBlankText, List.all_append,
      ← Text.isBlankText, accepted, Bool.false_and]
  have misread :
      (runIn (Scenario.hostOf []) 0 (some (name ++ " " ++ (op ++ " " ++ ""))) false).run
          (bareWorld name) =
        .error (.unknownOperation name (String.ofList second)) (bareWorld name) := by
    rw [runIn_of_words (Scenario.hostOf []) words solid,
      executeIn_bareWorld name _ secondWord.1]
  rw [regrouped, misread, executeIn_bareWorld name name isWord.1, String.ofList_toList] at same
  injection same with faults
  injection faults with _ ops
  exact different ops

/-- The modules of an accepted name understand their own texts exactly if the name is one
word. -/
theorem understandsOwnTexts_iff {kind : ModuleClass V} {context place : Nat}
    {world made : World V} (accepted : (makeModule kind name context).run world = .ok place made) :
    UnderstandsOwnTexts name ↔ ∀ c ∈ name.toList, Text.isBlank c = false := by
  have notBlank : Text.isBlankText name.toList = false :=
    makeModule_accepts_iff.mp ⟨place, made, accepted⟩
  constructor
  · intro understands c member
    by_contra blank
    exact not_understandsOwnTexts_of_blank notBlank member (by simpa using blank) understands
  · intro solid
    refine understandsOwnTexts_of_isWord ⟨?_, solid⟩
    intro empty
    rw [empty] at notBlank
    cases notBlank

/-- The start of a program, and a module made in it. -/
def workshop (name : String) : World Scenario.vocabulary :=
  after (makeModule Scenario.SampleModule.plain.toClass name 0)
    (Scenario.startWorld .standard false)

/-- A name with quotes, a colon and the mark of an identifier is understood, and one that ends
in a tab is accepted and is not. -/
theorem understandsOwnTexts_iff_workshop :
    (makeModule Scenario.SampleModule.plain.toClass "#draw:\"board\"" 0).run
        (Scenario.startWorld .standard false) = .ok 0 (workshop "#draw:\"board\"") ∧
      UnderstandsOwnTexts "#draw:\"board\"" ∧
      (makeModule Scenario.SampleModule.plain.toClass "draw:\t" 0).run
        (Scenario.startWorld .standard false) = .ok 0 (workshop "draw:\t") ∧
      ¬ UnderstandsOwnTexts "draw:\t" := by
  have quoted : (makeModule Scenario.SampleModule.plain.toClass "#draw:\"board\"" 0).run
      (Scenario.startWorld .standard false) = .ok 0 (workshop "#draw:\"board\"") := rfl
  have tabbed : (makeModule Scenario.SampleModule.plain.toClass "draw:\t" 0).run
      (Scenario.startWorld .standard false) = .ok 0 (workshop "draw:\t") := rfl
  have understood : UnderstandsOwnTexts "#draw:\"board\"" :=
    (understandsOwnTexts_iff quoted).mpr (Text.forall_mem_of_all (by decide))
  have misunderstood : ¬ UnderstandsOwnTexts "draw:\t" := by
    rw [understandsOwnTexts_iff tabbed]
    intro solid
    exact absurd (solid '\t' (by decide)) (by decide)
  exact ⟨quoted, understood, tabbed, misunderstood⟩

/-- A module named `drawing board` has an operation `info`, which the command does that its
text is read as, but running the text asks for an operation `board`. -/
theorem drawing_board_misread :
    SimpleDialect.read (some "info ") (some "drawing board") =
        .ok ⟨"drawing board", "info", [], none⟩ ∧
      (∃ reply final,
        (executeIn (Scenario.hostOf []) 0 ⟨"drawing board", "info", [], none⟩).run
          (workshop "drawing board") = .ok reply final) ∧
      (runIn (Scenario.hostOf []) 0 (some "info ") false).run (workshop "drawing board") =
        .error (.unknownOperation "drawing board" "board") (workshop "drawing board") ∧
      ¬ UnderstandsOwnTexts "drawing board" := by
  have words : Text.words
      (addressed ((workshop "drawing board").moduleOf 0).name "info ").toList =
        ["drawing".toList, "board".toList, "info".toList] := by decide +kernel
  have missing : ((workshop "drawing board").moduleOf 0).operations.find?
      (String.ofList "board".toList) = none := rfl
  have misread :
      (runIn (Scenario.hostOf []) 0 (some "info ") false).run (workshop "drawing board") =
        .error (.unknownOperation "drawing board" "board") (workshop "drawing board") := by
    rw [runIn_of_words (Scenario.hostOf []) words (by decide +kernel),
      executeIn_unknown (Scenario.hostOf []) (by decide) missing]
    rfl
  have misunderstood : ¬ UnderstandsOwnTexts "drawing board" :=
    not_understandsOwnTexts_of_blank (c := ' ') (by decide) (by decide) (by decide)
  have info : Text.words "info ".toList = ["info".toList] := by decide +kernel
  have read : SimpleDialect.read (some "info ") (some "drawing board") =
      .ok ⟨"drawing board", "info", [], none⟩ :=
    SimpleDialect.read_given_of_words (by decide) info
  exact ⟨read, ⟨_, _, rfl⟩, misread, misunderstood⟩

end World

end CommandHost
