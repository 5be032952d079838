import CommandHost.Proofs.Config.Overlay
import CommandHost.Proofs.Config.Standard
import Mathlib.Data.List.Forall2

/-!
# The layers of a configuration, field by field

The raw value of a field is what the environment says about it, or else what the file
says, or else its default.  The main statement: loading a configuration from a file whose
sections are mappings checks the raw value of each field, and nothing else.  It succeeds
exactly if every check does, and then each field holds what its check gave; otherwise there
is one problem for each field that was refused, in the order in which the fields are
declared.
-/

namespace CommandHost

/-! ## Raw values -/

namespace ConfigField

/-- What an environment says about a field. -/
def fromEnvironment? (environment : Environment) : ConfigField → Option Value
  | level => (environment.filled? "XPELL_LOG_LEVEL").map fun content =>
      .text (String.ofList (Text.capitals (Text.strip content.toList)))
  | logFile => (environment.filled? "XPELL_LOG_FILE").map .text
  | format => (environment.filled? "XPELL_LOG_FORMAT").map fun content =>
      .text (String.ofList (Text.smalls (Text.strip content.toList)))
  | selector => (environment.filled? "XPELL_OBJECT_SELECTOR").map .text
  | logRegister | logRemove | logFire => (environment.get? "XPELL_LOG_EVENTS").map fun content =>
      .bool (Environment.switchesOn content)
  | _ => none

variable (support : ConfigSupport)

/-- The value of a field before it is checked. -/
def raw (file : Entries) (environment : Environment) (field : ConfigField) : Value :=
  ((field.fromEnvironment? environment).or (field.given? file)).getD
    (field.member support .standard)

/-- Whether the raw value of a field passes its check. -/
def passes (field : ConfigField) (value : Value) : Bool :=
  match field.check support value with
  | .ok _ => true
  | .error _ => false

variable {support} in
/-- What comes of a raw value is what comes of the field if the defaults are left out. -/
theorem outcome_raw (reads : support.ReadsValues) (file : Entries) (environment : Environment)
    (field : ConfigField) :
    field.outcome support (some (field.raw support file environment)) =
      field.outcome support ((field.fromEnvironment? environment).or (field.given? file)) := by
  unfold raw
  cases (field.fromEnvironment? environment).or (field.given? file) with
  | none => exact reads.check_default field
  | some value => rfl

end ConfigField

/-! ## The merged mapping -/

namespace Entries

/-- A section of the lower mapping has the section of the upper one on top of it. -/
theorem get?_overlay_section {entries others inner : Entries} (distinct : others.Distinct)
    {name : String} (present : entries.get? name = some (.map inner))
    (mapping : ∀ value, others.get? name = some value → ∃ inner, value = .map inner) :
    (entries.overlay others).get? name = some (.map (inner.overlay (others.sectionAt name))) := by
  rw [get?_overlay entries distinct, present, sectionAt]
  cases found : others.get? name with
  | none => rw [overlay]
  | some value =>
      obtain ⟨upper, rfl⟩ := mapping value found
      simp [Value.overlay]

theorem get?_overlay_single {entries others : Entries} (distinct : others.Distinct)
    {name : String} {value : Value} (present : entries.get? name = some value)
    (single : (∀ inner, value ≠ .map inner) ∨
      ∀ other, others.get? name = some other → ∀ inner, other ≠ .map inner) :
    (entries.overlay others).get? name = some ((others.get? name).getD value) := by
  rw [get?_overlay entries distinct, present]
  cases found : others.get? name with
  | none => rfl
  | some other =>
      have replaced : value.overlay other = other :=
        Value.overlay_of_no_mapping (single.imp_right fun none => none other found)
      simp [replaced]

end Entries

namespace Environment

variable (environment : Environment)

theorem sectionAt_toEntries (field : ConfigField) :
    environment.toEntries.sectionAt field.sectionName =
      .ofTexts (match field.sectionName with
        | "logging" => environment.loggingEntries
        | "parser" => environment.parserEntries
        | "event_bus" => environment.busEntries
        | _ => []) := by
  unfold toEntries sectionOf
  cases environment.loggingEntries <;> cases environment.parserEntries <;>
    cases environment.busEntries <;> cases field <;> rfl

theorem sectioned_toEntries : environment.toEntries.Sectioned := by
  unfold toEntries sectionOf
  intro name isSection
  simp only [ConfigField.sectionNames, List.mem_cons, List.not_mem_nil, or_false] at isSection
  cases environment.loggingEntries <;> cases environment.parserEntries <;>
    cases environment.busEntries <;> obtain rfl | rfl | rfl | rfl := isSection <;> rfl

theorem distinct_toEntries : environment.toEntries.Distinct := by
  unfold toEntries sectionOf
  cases environment.loggingEntries <;> cases environment.parserEntries <;>
    cases environment.busEntries <;>
    simp [Entries.Distinct, Entries.keys, Entries.ofTexts]

theorem distinct_sectionAt_toEntries (field : ConfigField) :
    (environment.toEntries.sectionAt field.sectionName).Distinct := by
  have logging : Entries.Distinct (.ofTexts environment.loggingEntries) := by
    unfold loggingEntries
    cases environment.filled? "XPELL_LOG_LEVEL" <;>
      cases environment.filled? "XPELL_LOG_FILE" <;>
      cases environment.filled? "XPELL_LOG_FORMAT" <;>
      simp [Entries.Distinct, Entries.keys, Entries.ofTexts]
  have parser : Entries.Distinct (.ofTexts environment.parserEntries) := by
    unfold parserEntries
    cases environment.filled? "XPELL_OBJECT_SELECTOR" <;>
      simp [Entries.Distinct, Entries.keys, Entries.ofTexts]
  have bus : Entries.Distinct (.ofTexts environment.busEntries) := by
    unfold busEntries
    cases environment.get? "XPELL_LOG_EVENTS" <;>
      simp [Entries.Distinct, Entries.keys, Entries.ofTexts]
  rw [sectionAt_toEntries]
  cases field
  case level | logFile | format => exact logging
  case selector | sentinel => exact parser
  case logRegister | logRemove | logFire => exact bus
  all_goals exact List.Pairwise.nil

theorem get?_sectionAt_toEntries (field : ConfigField) :
    (environment.toEntries.sectionAt field.sectionName).get? field.key =
      field.fromEnvironment? environment := by
  rw [sectionAt_toEntries]
  cases field
  case level | logFile | format =>
    simp only [ConfigField.sectionName, ConfigField.key, ConfigField.fromEnvironment?,
      loggingEntries]
    cases environment.filled? "XPELL_LOG_LEVEL" <;>
      cases environment.filled? "XPELL_LOG_FILE" <;>
      cases environment.filled? "XPELL_LOG_FORMAT" <;>
      simp [Entries.ofTexts, Entries.get?, Entries.find?]
  case selector | sentinel =>
    simp only [ConfigField.sectionName, ConfigField.key, ConfigField.fromEnvironment?,
      parserEntries]
    cases environment.filled? "XPELL_OBJECT_SELECTOR" <;>
      simp [Entries.ofTexts, Entries.get?, Entries.find?]
  case logRegister | logRemove | logFire =>
    simp only [ConfigField.sectionName, ConfigField.key, ConfigField.fromEnvironment?,
      busEntries]
    cases environment.get? "XPELL_LOG_EVENTS" <;>
      simp [Entries.ofTexts, Entries.get?, Entries.find?]
  all_goals rfl

end Environment

theorem ConfigField.fromEnvironment?_ne_map {environment : Environment} {field : ConfigField}
    {value : Value} (found : field.fromEnvironment? environment = some value) :
    ∀ inner, value ≠ .map inner := by
  rintro inner rfl
  cases field <;> simp [fromEnvironment?] at found

/-- Where no variable is there, nothing is said. -/
theorem ConfigField.fromEnvironment?_nil (field : ConfigField) :
    field.fromEnvironment? [] = none := by
  cases field <;> rfl

namespace ConfigSupport

variable {support : ConfigSupport}

/-- In the merged mapping the section of a field holds the raw value of the field, if the file
has a mapping there. -/
theorem Lawful.get?_merged (lawful : support.Lawful) {file : Entries} (distinct : file.Distinct)
    {field : ConfigField}
    (isMapping : ∀ value, file.get? field.sectionName = some value → ∃ inner, value = .map inner)
    (sectionDistinct : (file.sectionAt field.sectionName).Distinct)
    (environment : Environment) :
    (support.merged file environment).get? field.sectionName =
        some (.map ((support.merged file environment).sectionAt field.sectionName)) ∧
      field.given? (support.merged file environment) =
        some (field.raw support file environment) := by
  obtain ⟨defaults, default⟩ := lawful.dump_eq .standard field
  have inFile := Entries.get?_overlay_section distinct defaults isMapping
  have inBoth :=
    Entries.get?_overlay_section environment.distinct_toEntries inFile fun _ =>
      environment.sectioned_toEntries.exists_mapping field
  have ofFile :=
    Entries.get?_overlay_single sectionDistinct default
      (.inl (lawful.member_ne_map .standard field))
  have ofBoth :=
    Entries.get?_overlay_single (environment.distinct_sectionAt_toEntries field) ofFile
      (.inr fun other found => by
        rw [environment.get?_sectionAt_toEntries] at found
        exact ConfigField.fromEnvironment?_ne_map found)
  have sameSection : (support.merged file environment).sectionAt field.sectionName =
      (((support.dump .standard).sectionAt field.sectionName).overlay
        (file.sectionAt field.sectionName)).overlay
          (environment.toEntries.sectionAt field.sectionName) := by
    rw [Entries.sectionAt, merged, inBoth]
  refine ⟨by rw [sameSection]; exact inBoth, ?_⟩
  rw [ConfigField.given?, sameSection, ofBoth, environment.get?_sectionAt_toEntries]
  unfold ConfigField.raw ConfigField.given?
  cases field.fromEnvironment? environment <;> simp

end ConfigSupport

/-! ## Checking all fields -/

namespace ConfigField

variable {support : ConfigSupport} {raw : ConfigField → Value}

variable (support raw) in
/-- A problem tells that the value of a field was refused, and why. -/
def Describes (field : ConfigField) (problem : Problem) : Prop :=
  problem.path = [field.sectionName, field.key] ∧
    field.check support (raw field) = .error [⟨[], problem.kind⟩]

theorem paths_of_describes {fields : List ConfigField} {problems : List Problem}
    (described : List.Forall₂ (Describes support raw) fields problems) :
    problems.map Problem.path = fields.map fun field => [field.sectionName, field.key] := by
  induction described with
  | nil => rfl
  | cons first _ inductionHypothesis =>
      rw [List.map_cons, List.map_cons, inductionHypothesis, first.1]

/-- Each field that is refused gives one problem, and the others give none. -/
theorem forall₂_describes (reads : support.ReadsValues) (raw : ConfigField → Value)
    (fields : List ConfigField) :
    List.Forall₂ (Describes support raw)
      (fields.filter fun field => !field.passes support (raw field))
      (fields.flatMap fun field =>
        (Checked.under field.sectionName
          (Checked.under field.key (field.check support (raw field)))).problems) := by
  induction fields with
  | nil => exact .nil
  | cons field rest inductionHypothesis =>
      rw [List.flatMap_cons]
      cases checked : field.check support (raw field) with
      | ok value =>
          have passed : field.passes support (raw field) = true := by simp [passes, checked]
          simpa [passed] using inductionHypothesis
      | error found =>
          obtain ⟨kind, rfl⟩ := reads.check_one field (raw field) found checked
          have refused : field.passes support (raw field) = false := by simp [passes, checked]
          rw [List.filter_cons_of_pos (by simp [refused])]
          exact .cons ⟨rfl, checked⟩ inductionHypothesis

/-- If every field passes its check, the contents make up a configuration. -/
theorem exists_config_iff :
    (∃ config : RuntimeConfig, ∀ field : ConfigField,
        field.check support (raw field) = .ok (field.read config)) ↔
      ∀ field : ConfigField, field.passes support (raw field) = true := by
  constructor
  · rintro ⟨config, checked⟩ field
    simp [passes, checked field]
  · intro passes
    have checked : ∀ field : ConfigField,
        ∃ content, field.check support (raw field) = .ok content := by
      intro field
      have passed := passes field
      unfold ConfigField.passes at passed
      split at passed
      · exact ⟨_, ‹_›⟩
      · simp at passed
    choose content checked using checked
    refine ⟨⟨⟨content .level, content .logFile, content .format⟩,
      ⟨content .selector, content .sentinel⟩,
      ⟨content .logRegister, content .logRemove, content .logFire⟩,
      ⟨content .logCreateObject, content .logRemoveObject, content .countSuffix⟩⟩, fun field => ?_⟩
    cases field <;> exact checked _

end ConfigField

/-! ## Loading -/

namespace ConfigFile

/-- The name of a file that is read: it has one of the endings, in whatever case. -/
def IsReadable (path : String) : Prop :=
  String.ofList (Text.smalls (ending path).toList) ∈ endings

instance (path : String) : Decidable (IsReadable path) :=
  inferInstanceAs (Decidable (_ ∈ endings))

theorem IsReadable.ne_empty {path : String} (readable : IsReadable path) : path ≠ "" := by
  rintro rfl
  revert readable
  unfold IsReadable
  decide

theorem entries_eq_ok {support : ConfigSupport} {path text : String} {file : Entries}
    (readable : IsReadable path) (holds : support.document text = .ok (.map file)) :
    entries support path text = .ok file := by
  have known : endings.contains (String.ofList (Text.smalls (ending path).toList)) = true :=
    List.contains_iff_mem.mpr readable
  have filled : (Value.map file).orElse (.map []) = .map file := by
    cases file <;> rfl
  simp only [entries, known, holds, filled]
  rfl

end ConfigFile

namespace ConfigSupport

/-- What loading has to do with the raw values of the fields. -/
structure ChecksFields (support : ConfigSupport) (raw : ConfigField → Value)
    (outcome : Except ConfigFault RuntimeConfig) : Prop where
  /-- A configuration comes of it if each field holds what its check gave. -/
  ok_iff : ∀ config, outcome = .ok config ↔
    ∀ field : ConfigField, field.check support (raw field) = .ok (field.read config)
  /-- It succeeds if every field passes its check. -/
  succeeds_iff : (∃ config, outcome = .ok config) ↔
    ∀ field : ConfigField, field.passes support (raw field) = true
  /-- Otherwise it is refused with one problem for each field that does not pass. -/
  refused : ∀ fault, outcome = .error fault →
    ∃ problems, fault = .invalid problems ∧
      List.Forall₂ (ConfigField.Describes support raw)
        (ConfigField.all.filter fun field => !field.passes support (raw field)) problems ∧
      ∃ report, fault.report? = .ok report ∧ report.kind = .configuration ∧
        report.details =
          .map (Entries.ofTexts [("errors", .list (problems.map Problem.toValue))])

variable {support : ConfigSupport} {raw : ConfigField → Value}

variable (support) in
/-- A mapping of sections that is read as if it held a raw value for each field. -/
structure ReadsAs (entries : Entries) (raw : ConfigField → Value) : Prop where
  sectioned : entries.Sectioned
  outcome_eq : ∀ field : ConfigField,
    field.outcome support (field.given? entries) = field.check support (raw field)

/-- Accepting a mapping that is read as raw values is checking them. -/
theorem ReadsAs.checksFields (lawful : support.Lawful) {entries : Entries}
    (reads : ReadsAs support entries raw) : ChecksFields support raw (support.accept entries) := by
  have okIff : ∀ config, support.accept entries = .ok config ↔
      ∀ field : ConfigField, field.check support (raw field) = .ok (field.read config) := by
    intro config
    rw [accept_eq_ok_iff, lawful.validate_eq_ok_iff, and_iff_right reads.sectioned]
    exact forall_congr' fun field => by rw [reads.outcome_eq]
  refine ⟨okIff, ?_, fun fault refused => ?_⟩
  · rw [← ConfigField.exists_config_iff]
    exact exists_congr okIff
  · obtain ⟨problems, found, rfl⟩ := accept_eq_error refused
    refine ⟨problems, rfl, ?_, _, rfl, rfl, rfl⟩
    rw [lawful.problems_eq entries reads.sectioned problems found]
    simp only [ConfigField.problems, reads.outcome_eq]
    exact ConfigField.forall₂_describes lawful.toReadsValues raw ConfigField.all

theorem ReadsAs.accept_unique (lawful : support.Lawful) {entries others : Entries}
    (reads : ReadsAs support entries raw) (readsOthers : ReadsAs support others raw) :
    support.accept entries = support.accept others := by
  rw [accept, accept,
    lawful.validate_congr reads.sectioned readsOthers.sectioned fun field => by
      rw [reads.outcome_eq, readsOthers.outcome_eq]]

theorem Lawful.readsAs_merged (lawful : support.Lawful) {file : Entries}
    (distinct : file.Distinct) (sectioned : file.Sectioned)
    (sectionDistinct : ∀ name, (file.sectionAt name).Distinct) (environment : Environment) :
    ReadsAs support (support.merged file environment)
      (fun field => field.raw support file environment) := by
  have merged (field : ConfigField) :=
    lawful.get?_merged distinct (fun _ => sectioned.exists_mapping field) (sectionDistinct _)
      environment
  refine ⟨fun name isSection => ?_, fun field => ?_⟩
  · obtain ⟨field, rfl⟩ := ConfigField.exists_sectionName isSection
    rw [(merged field).1]
    rfl
  · rw [(merged field).2]
    rfl

variable {path text : String} {file : Entries}

/-- Loading a file that holds a mapping merges it with the defaults and the environment. -/
theorem load_eq_accept (readable : ConfigFile.IsReadable path)
    (holds : support.document text = .ok (.map file)) (environment : Environment) :
    (support.load (some ⟨path, some text⟩) environment).outcome =
      support.accept (support.merged file environment) := by
  simp only [load, readable.ne_empty, if_false, ConfigFile.entries_eq_ok readable holds]
  rfl

/-- **Layering.**  Loading a configuration from a file that holds a mapping of sections checks
what the environment, or else the file, or else the defaults say about each field.  What the
file says besides does not matter. -/
theorem load_layers (lawful : support.Lawful) (readable : ConfigFile.IsReadable path)
    (holds : support.document text = .ok (.map file)) (sectioned : file.Sectioned)
    (environment : Environment) :
    ChecksFields support (fun field => field.raw support file environment)
        (support.load (some ⟨path, some text⟩) environment).outcome ∧
      ∀ otherPath otherText (other : Entries), ConfigFile.IsReadable otherPath →
        support.document otherText = .ok (.map other) → other.Sectioned →
        (∀ field : ConfigField, field.given? other = field.given? file) →
          (support.load (some ⟨otherPath, some otherText⟩) environment).outcome =
            (support.load (some ⟨path, some text⟩) environment).outcome := by
  obtain ⟨distinct, sectionDistinct⟩ := lawful.document_distinct text file holds
  have filled := lawful.readsAs_merged distinct sectioned sectionDistinct environment
  rw [load_eq_accept readable holds]
  refine ⟨filled.checksFields lawful, ?_⟩
  intro otherPath otherText other otherReadable otherHolds otherSectioned same
  obtain ⟨otherDistinct, otherSectionDistinct⟩ :=
    lawful.document_distinct otherText other otherHolds
  have otherFilled :=
    lawful.readsAs_merged otherDistinct otherSectioned otherSectionDistinct environment
  simp only [ConfigField.raw, same] at otherFilled
  rw [load_eq_accept otherReadable otherHolds]
  exact otherFilled.accept_unique lawful filled

/-- The problems with the raw values lie where the fields that do not pass stand. -/
theorem ChecksFields.paths_eq {outcome : Except ConfigFault RuntimeConfig}
    (checks : ChecksFields support raw outcome) {field : ConfigField}
    (refused : field.passes support (raw field) = false) :
    ∃ problems, outcome = .error (.invalid problems) ∧
      problems.map Problem.path =
        (ConfigField.all.filter fun field => !field.passes support (raw field)).map fun field =>
          [field.sectionName, field.key] := by
  cases found : outcome with
  | ok config =>
      have passed := checks.succeeds_iff.mp ⟨config, found⟩ field
      simp [refused] at passed
  | error fault =>
      obtain ⟨problems, rfl, described, -⟩ := checks.refused fault found
      exact ⟨problems, rfl, ConfigField.paths_of_describes described⟩

/-- A document with unknown keys at both levels, a null, and a level that is not one. -/
def mixedText : String :=
  "logging: \x7blevel: LOUD, log_file: ~, extra: 1\x7d\n" ++
    "parser: \x7bspace_sentinel: ''\x7d\nevent_bus: \x7blog_fire: maybe\x7d\nother: [1]\n"

/-- An environment that mends the level of the mixed document and spoils its format. -/
def mixedEnvironment : Environment :=
  [("XPELL_LOG_LEVEL", " debug "), ("XPELL_LOG_FORMAT", "XML")]

/-- The entries of a document that is a mapping. -/
def entriesOf? : Except Yaml.Fault Value → Option Entries
  | .ok (.map entries) => some entries
  | _ => none

/-- A document that was read as a mapping which passes a test. -/
theorem exists_mapping_of_any {outcome : Except Yaml.Fault Value} {test : Entries → Bool}
    (passes : (entriesOf? outcome).any test = true) :
    ∃ entries : Entries, outcome = .ok (.map entries) ∧ test entries = true := by
  unfold entriesOf? at passes
  split at passes
  · exact ⟨_, rfl, passes⟩
  · cases passes

theorem read_mixedText :
    ∃ file : Entries, Yaml.read mixedText = .ok (.map file) ∧ file.Sectioned ∧
      (ConfigField.all.filter fun field =>
        !field.passes .standard (field.raw .standard file mixedEnvironment)) =
          [.format, .sentinel, .logFire] := by
  have evaluated : ((entriesOf? (Yaml.read mixedText)).any fun file =>
      decide (Entries.Sectioned file ∧
        (ConfigField.all.filter fun field =>
          !field.passes .standard (field.raw .standard file mixedEnvironment)) =
            [.format, .sentinel, .logFire])) = true := by
    decide +kernel
  obtain ⟨file, holds, passes⟩ := exists_mapping_of_any evaluated
  exact ⟨file, holds, of_decide_eq_true passes⟩

theorem load_layers_mixed :
    ∃ problems,
      (standard.load (some ⟨"app.YML", some mixedText⟩) mixedEnvironment).outcome =
          .error (.invalid problems) ∧
        problems.map Problem.path =
          [["logging", "format"], ["parser", "space_sentinel"], ["event_bus", "log_fire"]] := by
  obtain ⟨file, holds, sectioned, refused⟩ := read_mixedText
  have checks := (load_layers standard_lawful
    (show ConfigFile.IsReadable "app.YML" by decide +kernel) holds sectioned mixedEnvironment).1
  have spoiled : ConfigField.format ∈ ConfigField.all.filter fun field =>
      !field.passes .standard (field.raw .standard file mixedEnvironment) := by
    simp [refused]
  obtain ⟨problems, invalid, paths⟩ :=
    checks.paths_eq (by simpa using (List.mem_filter.mp spoiled).2)
  exact ⟨problems, invalid, by rw [paths, refused]; rfl⟩

end ConfigSupport

end CommandHost
