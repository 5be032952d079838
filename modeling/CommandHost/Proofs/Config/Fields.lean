import CommandHost.Config.Layers
import CommandHost.Proofs.Result
import CommandHost.Proofs.Value.Entries

/-!
# The fields of a configuration

A configuration has eleven fields in four sections.  Here a mapping matters by what it gives
for each field, and a library by what comes of that: `ConfigSupport.Lawful` names what is
relied on.  A mapping is read field by field, each problem is reported under the path of its
field, and what is written out for a configuration is read back.

`ConfigSupport.validate_congr` is what most proofs about configurations need: two mappings
from which the same comes of each field are read alike.
-/

namespace CommandHost

/-! ## Problems -/

namespace Checked

variable {α β : Type}

/-- The problems that a check found. -/
def problems : Checked α → List Problem
  | .ok _ => []
  | .error found => found

@[simp] theorem problems_ok (value : α) : problems (.ok value : Checked α) = [] := rfl

@[simp] theorem problems_error (found : List Problem) :
    problems (.error found : Checked α) = found := rfl

@[simp] theorem problems_both (first : Checked α) (second : Checked β) :
    (first.both second).problems = first.problems ++ second.problems := by
  cases first <;> cases second <;> simp [both, problems]

@[simp] theorem problems_map (checked : Checked α) (change : α → β) :
    problems (checked.map change) = checked.problems := by
  cases checked <;> rfl

@[simp] theorem problems_under (key : String) (checked : Checked α) :
    (under key checked).problems =
      checked.problems.map fun problem => { problem with path := key :: problem.path } := by
  cases checked <;> rfl

/-- A check that gives at most one problem, at the value itself. -/
def FindsOne (checked : Checked α) : Prop :=
  ∀ found, checked = .error found → ∃ kind, found = [⟨[], kind⟩]

theorem findsOne_ok (value : α) : FindsOne (.ok value) := by
  simp [FindsOne]

theorem findsOne_problem (kind : ProblemKind) : FindsOne (problem kind : Checked α) := by
  rintro found ⟨⟩
  exact ⟨kind, rfl⟩

theorem FindsOne.bind {first : Checked α} {next : α → Checked β} (one : FindsOne first)
    (rest : ∀ value, FindsOne (next value)) : FindsOne (Except.bind first next) := by
  cases first with
  | ok value => exact rest value
  | error found =>
      rintro others ⟨⟩
      exact one found rfl

end Checked

/-! ## Markers -/

/-- A text that can be a selector or a sentinel: not empty and without blanks. -/
def IsMarker (content : String) : Prop :=
  content ≠ "" ∧ ∀ c ∈ content.toList, Text.isBlank c = false

theorem checkMarker_eq_ok_iff {content other : String} :
    checkMarker content = .ok other ↔ IsMarker content ∧ content = other := by
  rw [checkMarker, IsMarker]
  by_cases empty : content = ""
  · simp [empty, Checked.problem]
  · by_cases blank : content.toList.any Text.isBlank = true
    · have notMarker : ¬ ∀ c ∈ content.toList, Text.isBlank c = false := by
        simpa using blank
      rw [if_neg empty, if_pos blank]
      simp [Checked.problem, notMarker]
    · have marker : ∀ c ∈ content.toList, Text.isBlank c = false := by
        simpa using blank
      rw [if_neg empty, if_neg blank, Except.ok.injEq]
      constructor
      · intro same
        exact ⟨⟨empty, marker⟩, same⟩
      · intro found
        exact found.2

theorem findsOne_checkMarker (content : String) : Checked.FindsOne (checkMarker content) := by
  unfold checkMarker
  split
  · exact Checked.findsOne_problem .emptyText
  · split
    · exact Checked.findsOne_problem .blankInside
    · exact Checked.findsOne_ok content

/-! ## Fields -/

/-- The fields of a configuration, in the order of their declaration. -/
inductive ConfigField where
  | level
  | logFile
  | format
  | selector
  | sentinel
  | logRegister
  | logRemove
  | logFire
  | logCreateObject
  | logRemoveObject
  | countSuffix
  deriving DecidableEq, Repr

namespace ConfigField

/-- All fields in the order of their declaration. -/
def all : List ConfigField :=
  [level, logFile, format, selector, sentinel, logRegister, logRemove, logFire, logCreateObject,
    logRemoveObject, countSuffix]

/-- The names of the sections. -/
def sectionNames : List String := ["logging", "parser", "event_bus", "modules"]

/-- The section that a field belongs to. -/
def sectionName : ConfigField → String
  | level | logFile | format => "logging"
  | selector | sentinel => "parser"
  | logRegister | logRemove | logFire => "event_bus"
  | logCreateObject | logRemoveObject | countSuffix => "modules"

/-- The key of a field in its section. -/
def key : ConfigField → String
  | level => "level"
  | logFile => "log_file"
  | format => "format"
  | selector => "object_selector"
  | sentinel => "space_sentinel"
  | logRegister => "log_register"
  | logRemove => "log_remove"
  | logFire => "log_fire"
  | logCreateObject => "log_create_object"
  | logRemoveObject => "log_remove_object"
  | countSuffix => "object_count_suffix"

/-- What a field holds. -/
abbrev Content : ConfigField → Type
  | level => LogLevel
  | logFile => Option String
  | format => LogFormat
  | selector | sentinel | countSuffix => String
  | _ => Bool

/-- What a field holds in a configuration. -/
def read : (field : ConfigField) → RuntimeConfig → field.Content
  | level, config => config.logging.level
  | logFile, config => config.logging.logFile
  | format, config => config.logging.format
  | selector, config => config.parser.selector
  | sentinel, config => config.parser.sentinel
  | logRegister, config => config.bus.logRegister
  | logRemove, config => config.bus.logRemove
  | logFire, config => config.bus.logFire
  | logCreateObject, config => config.modules.logCreateObject
  | logRemoveObject, config => config.modules.logRemoveObject
  | countSuffix, config => config.modules.countSuffix

theorem mem_all (field : ConfigField) : field ∈ all := by
  cases field <;> decide

theorem sectionName_mem (field : ConfigField) : field.sectionName ∈ sectionNames := by
  cases field <;> decide

theorem exists_sectionName {name : String} (isSection : name ∈ sectionNames) :
    ∃ field : ConfigField, field.sectionName = name := by
  simp only [sectionNames, List.mem_cons, List.not_mem_nil, or_false] at isSection
  rcases isSection with rfl | rfl | rfl | rfl
  · exact ⟨.level, rfl⟩
  · exact ⟨.selector, rfl⟩
  · exact ⟨.logRegister, rfl⟩
  · exact ⟨.countSuffix, rfl⟩

end ConfigField

/-! ## What a mapping gives -/

/-- Whether a value is a mapping. -/
def Value.isMapping : Value → Bool
  | .map _ => true
  | _ => false

/-- The mapping that a mapping holds under a key, which is empty if there is none. -/
def Entries.sectionAt (entries : Entries) (name : String) : Entries :=
  match entries.get? name with
  | some (.map inner) => inner
  | _ => []

/-- Every section that a mapping has is a mapping. -/
def Entries.Sectioned (entries : Entries) : Prop :=
  ∀ name ∈ ConfigField.sectionNames, (entries.get? name).all Value.isMapping = true

instance (entries : Entries) : Decidable entries.Sectioned :=
  inferInstanceAs (Decidable (∀ name ∈ ConfigField.sectionNames, _))

theorem Entries.Sectioned.exists_mapping {entries : Entries} (sectioned : entries.Sectioned)
    (field : ConfigField) {value : Value}
    (found : entries.get? field.sectionName = some value) : ∃ inner, value = .map inner := by
  have isMapping := sectioned field.sectionName field.sectionName_mem
  rw [found] at isMapping
  cases value with
  | map inner => exact ⟨inner, rfl⟩
  | _ => simp [Value.isMapping] at isMapping

namespace ConfigField

/-- What a mapping of sections gives for a field, null included. -/
def given? (entries : Entries) (field : ConfigField) : Option Value :=
  (entries.sectionAt field.sectionName).get? field.key

variable (support : ConfigSupport)

/-- What a field holds in a configuration, as a value. -/
def member (config : RuntimeConfig) : ConfigField → Value
  | level => support.levelMember config.logging.level
  | logFile => .optionalText config.logging.logFile
  | format => support.formatMember config.logging.format
  | selector => .text config.parser.selector
  | sentinel => .text config.parser.sentinel
  | logRegister => .bool config.bus.logRegister
  | logRemove => .bool config.bus.logRemove
  | logFire => .bool config.bus.logFire
  | logCreateObject => .bool config.modules.logCreateObject
  | logRemoveObject => .bool config.modules.logRemoveObject
  | countSuffix => .text config.modules.countSuffix

/-- What is written to a file for a field: names for levels and formats, and nothing for
null. -/
def saved? (config : RuntimeConfig) : ConfigField → Option Value
  | level => some (.text config.logging.level.name)
  | logFile => config.logging.logFile.map .text
  | format => some (.text config.logging.format.name)
  | selector => some (.text config.parser.selector)
  | sentinel => some (.text config.parser.sentinel)
  | logRegister => some (.bool config.bus.logRegister)
  | logRemove => some (.bool config.bus.logRemove)
  | logFire => some (.bool config.bus.logFire)
  | logCreateObject => some (.bool config.modules.logCreateObject)
  | logRemoveObject => some (.bool config.modules.logRemoveObject)
  | countSuffix => some (.text config.modules.countSuffix)

/-- The check of a value that is given for a field.  A selector and a sentinel have to be
markers besides. -/
def check : (field : ConfigField) → Value → Checked field.Content
  | level => support.level
  | logFile => support.optionalText
  | format => support.format
  | selector | sentinel => fun value => (support.text value).bind checkMarker
  | countSuffix => support.text
  | logRegister | logRemove | logFire | logCreateObject | logRemoveObject => support.flag

/-- What comes of a field: its default where nothing is given, and otherwise what the check
makes of the value. -/
def outcome (field : ConfigField) : Option Value → Checked field.Content
  | none => .ok (field.read .standard)
  | some value => field.check support value

/-- The problems with what is given for a field, under the path of the field. -/
def problems (field : ConfigField) (given : Option Value) : List Problem :=
  (Checked.under field.sectionName
    (Checked.under field.key (field.outcome support given))).problems

end ConfigField

/-! ## Plain values -/

mutual

/-- A value made of mappings with text keys, texts and flags only. -/
def Value.isPlain : Value → Bool
  | .text _ => true
  | .bool _ => true
  | .map entries => Entries.arePlain entries
  | _ => false

def Entries.arePlain : List (Atom × Value) → Bool
  | [] => true
  | (.text _, value) :: rest => value.isPlain && Entries.arePlain rest
  | _ :: _ => false

end

/-! ## What libraries are relied on for -/

namespace ConfigSupport

variable {support : ConfigSupport}

/-- What is made of single values.  A value has at most one problem; texts, flags, null,
levels and formats are taken as they are, and levels and formats also by their names. -/
structure ReadsValues (support : ConfigSupport) : Prop where
  text_one : ∀ value, Checked.FindsOne (support.text value)
  optionalText_one : ∀ value, Checked.FindsOne (support.optionalText value)
  flag_one : ∀ value, Checked.FindsOne (support.flag value)
  level_one : ∀ value, Checked.FindsOne (support.level value)
  format_one : ∀ value, Checked.FindsOne (support.format value)
  text_text : ∀ content, support.text (.text content) = .ok content
  optionalText_null : support.optionalText .null = .ok none
  optionalText_text : ∀ content, support.optionalText (.text content) = .ok (some content)
  flag_bool : ∀ flag, support.flag (.bool flag) = .ok flag
  level_name : ∀ level, support.level (.text level.name) = .ok level
  level_member : ∀ level, support.level (support.levelMember level) = .ok level
  format_name : ∀ format, support.format (.text format.name) = .ok format
  format_member : ∀ format, support.format (support.formatMember format) = .ok format
  levelMember_ne_map : ∀ level inner, support.levelMember level ≠ .map inner
  formatMember_ne_map : ∀ format inner, support.formatMember format ≠ .map inner

/-- How mappings are read: sections have to be mappings, what is given for a field is checked,
what is not given has its default, and other keys do not matter.  All fields are checked, and
their problems are reported in the order of the fields. -/
structure ReadsMappings (support : ConfigSupport) : Prop where
  validate_eq_ok_iff : ∀ entries config, support.validate entries = .ok config ↔
    entries.Sectioned ∧
      ∀ field : ConfigField, field.outcome support (field.given? entries) = .ok (field.read config)
  problems_eq : ∀ entries, entries.Sectioned → ∀ found,
    support.validate entries = .error found →
      found = ConfigField.all.flatMap fun field => field.problems support (field.given? entries)

/-- How a configuration is written out: its sections are mappings that hold what the fields
hold.  What is meant for a file is plain. -/
structure WritesMappings (support : ConfigSupport) : Prop where
  dump_eq : ∀ config (field : ConfigField),
    (support.dump config).get? field.sectionName =
        some (.map ((support.dump config).sectionAt field.sectionName)) ∧
      field.given? (support.dump config) = some (field.member support config)
  dumpPlain_sectioned : ∀ config, (support.dumpPlain config).Sectioned
  dumpPlain_isPlain : ∀ config, (Value.map (support.dumpPlain config)).isPlain = true
  dumpPlain_given : ∀ config (field : ConfigField),
    field.given? (support.dumpPlain config) = field.saved? config

/-- What is relied on, besides that no mapping of a document has a key twice. -/
structure Lawful (support : ConfigSupport) : Prop extends
    ReadsValues support, ReadsMappings support, WritesMappings support where
  document_distinct : ∀ text (file : Entries), support.document text = .ok (.map file) →
    file.Distinct ∧ ∀ name, (file.sectionAt name).Distinct

/-! ### Consequences for fields -/

theorem ReadsValues.check_one (reads : support.ReadsValues) (field : ConfigField)
    (value : Value) : Checked.FindsOne (field.check support value) := by
  cases field
  case level => exact reads.level_one value
  case logFile => exact reads.optionalText_one value
  case format => exact reads.format_one value
  case selector | sentinel => exact (reads.text_one value).bind findsOne_checkMarker
  case countSuffix => exact reads.text_one value
  all_goals exact reads.flag_one value

/-- The default of a field passes the check of the field. -/
theorem ReadsValues.check_default (reads : support.ReadsValues) (field : ConfigField) :
    field.check support (field.member support .standard) = .ok (field.read .standard) := by
  cases field
  case level => exact reads.level_member _
  case logFile => exact reads.optionalText_null
  case format => exact reads.format_member _
  case selector | sentinel =>
    simp only [ConfigField.check, ConfigField.member, reads.text_text]
    rfl
  case countSuffix => exact reads.text_text _
  all_goals exact reads.flag_bool _

theorem ReadsValues.member_ne_map (reads : support.ReadsValues) (config : RuntimeConfig)
    (field : ConfigField) : ∀ inner, field.member support config ≠ .map inner := by
  cases field
  case level => exact reads.levelMember_ne_map _
  case format => exact reads.formatMember_ne_map _
  case logFile =>
    intro inner
    simp only [ConfigField.member]
    cases config.logging.logFile <;> simp [Value.optionalText]
  all_goals simp [ConfigField.member]

/-- Mappings from which the same comes of each field are read alike. -/
theorem ReadsMappings.validate_congr (reads : support.ReadsMappings) {entries others : Entries}
    (sectioned : entries.Sectioned) (othersSectioned : others.Sectioned)
    (same : ∀ field : ConfigField, field.outcome support (field.given? entries) =
      field.outcome support (field.given? others)) :
    support.validate entries = support.validate others := by
  have sameOk (config : RuntimeConfig) :
      support.validate entries = .ok config ↔ support.validate others = .ok config := by
    rw [reads.validate_eq_ok_iff, reads.validate_eq_ok_iff, and_iff_right sectioned,
      and_iff_right othersSectioned]
    exact forall_congr' fun field => by rw [same field]
  cases validated : support.validate entries with
  | ok config => exact ((sameOk config).mp validated).symm
  | error found =>
      cases othersValidated : support.validate others with
      | ok config =>
          rw [(sameOk config).mpr othersValidated] at validated
          cases validated
      | error othersFound =>
          rw [reads.problems_eq entries sectioned found validated,
            reads.problems_eq others othersSectioned othersFound othersValidated]
          simp only [ConfigField.problems, same]

/-- A mapping with a section that is no mapping is not read. -/
theorem ReadsMappings.sectioned_of_validate (reads : support.ReadsMappings) {entries : Entries}
    {config : RuntimeConfig} (validated : support.validate entries = .ok config) :
    entries.Sectioned :=
  ((reads.validate_eq_ok_iff entries config).mp validated).1

theorem accept_eq_ok_iff {entries : Entries} {config : RuntimeConfig} :
    support.accept entries = .ok config ↔ support.validate entries = .ok config := by
  unfold accept
  cases support.validate entries with
  | ok other =>
      exact ⟨fun same => congrArg Except.ok (Except.ok.inj same),
        fun same => congrArg Except.ok (Except.ok.inj same)⟩
  | error problems => exact iff_of_false nofun nofun

/-- A mapping is only refused for problems. -/
theorem accept_eq_error {entries : Entries} {fault : ConfigFault}
    (refused : support.accept entries = .error fault) :
    ∃ problems, support.validate entries = .error problems ∧ fault = .invalid problems := by
  unfold accept at refused
  cases found : support.validate entries with
  | ok config =>
      rw [found] at refused
      cases refused
  | error problems =>
      rw [found] at refused
      exact ⟨problems, rfl, (Except.error.inj refused).symm⟩

end ConfigSupport

end CommandHost
