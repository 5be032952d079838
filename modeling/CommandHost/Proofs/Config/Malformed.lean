import CommandHost.Proofs.Config.Layering

/-!
# Files with malformed sections

A section of a file can be something else than a mapping.  Where the environment says
nothing about the fields of that section, it stays in the way and the configuration is
refused.  Where the environment says something, what it says replaces the section as a
whole, and the file is read as if it had no such section.

The main statement puts the two together: loading a file with malformed sections is refused
exactly if the environment leaves one of them in place or the raw value of a field is
refused.
-/

namespace CommandHost

/-! ## Malformed sections -/

theorem Value.ne_map {value : Value} (single : value.isMapping = false) (inner : Entries) :
    value ≠ .map inner := by
  rintro rfl
  cases single

namespace Entries

variable {entries : Entries}

/-- A mapping has a section that is no mapping. -/
def Spoils (entries : Entries) (name : String) : Prop :=
  ∃ value, entries.get? name = some value ∧ value.isMapping = false

theorem spoils_iff {name : String} :
    entries.Spoils name ↔ (entries.get? name).all Value.isMapping = false := by
  unfold Spoils
  cases entries.get? name <;> simp

theorem sectioned_iff :
    entries.Sectioned ↔ ∀ name ∈ ConfigField.sectionNames, ¬ entries.Spoils name := by
  refine forall₂_congr fun name _ => ?_
  rw [spoils_iff, Bool.not_eq_false]

theorem exists_mapping_of_not_spoils {name : String} (sound : ¬ entries.Spoils name)
    {value : Value} (found : entries.get? name = some value) : ∃ inner, value = .map inner := by
  have isMapping : value.isMapping = true := by
    by_contra noMapping
    exact sound ⟨value, found, by simpa using noMapping⟩
  cases value with
  | map inner => exact ⟨inner, rfl⟩
  | _ => cases isMapping

end Entries

/-! ## What the environment sets -/

namespace Environment

variable {environment : Environment}

/-- An environment says something about a field of a section. -/
def Sets (environment : Environment) (name : String) : Prop :=
  ∃ field : ConfigField, field.sectionName = name ∧
    (field.fromEnvironment? environment).isSome = true

theorem not_sets_nil (name : String) : ¬ Sets [] name := by
  rintro ⟨field, -, sets⟩
  rw [field.fromEnvironment?_nil] at sets
  cases sets

theorem get?_toEntries_of_sets {name : String} (sets : environment.Sets name) :
    environment.toEntries.get? name =
      some (.map (environment.toEntries.sectionAt name)) := by
  obtain ⟨field, rfl, isSet⟩ := sets
  rw [← get?_sectionAt_toEntries] at isSet
  unfold Entries.sectionAt at isSet ⊢
  split
  · assumption
  · next noMapping =>
      -- Without a section nothing would be said about the field.
      split at isSet
      · next inner found => exact absurd found (noMapping inner)
      · exact absurd isSet Bool.false_ne_true

theorem get?_toEntries_of_not_sets {name : String}
    (isSection : name ∈ ConfigField.sectionNames) (sets : ¬ environment.Sets name) :
    environment.toEntries.get? name = none := by
  have unsaid (field : ConfigField) (same : field.sectionName = name) :
      field.fromEnvironment? environment = none := by
    rw [← Option.not_isSome_iff_eq_none]
    exact fun isSet => sets ⟨field, same, isSet⟩
  simp only [ConfigField.sectionNames, List.mem_cons, List.not_mem_nil, or_false] at isSection
  unfold toEntries sectionOf
  rcases isSection with rfl | rfl | rfl | rfl
  · have level := unsaid .level rfl
    have logFile := unsaid .logFile rfl
    have format := unsaid .format rfl
    simp only [ConfigField.fromEnvironment?, Option.map_eq_none_iff] at level logFile format
    have nothing : environment.loggingEntries = [] := by
      simp [loggingEntries, level, logFile, format]
    rw [nothing]
    cases environment.parserEntries <;> cases environment.busEntries <;> rfl
  · have selector := unsaid .selector rfl
    simp only [ConfigField.fromEnvironment?, Option.map_eq_none_iff] at selector
    have nothing : environment.parserEntries = [] := by simp [parserEntries, selector]
    rw [nothing]
    cases environment.loggingEntries <;> cases environment.busEntries <;> rfl
  · have logFire := unsaid .logFire rfl
    simp only [ConfigField.fromEnvironment?, Option.map_eq_none_iff] at logFire
    have nothing : environment.busEntries = [] := by simp [busEntries, logFire]
    rw [nothing]
    cases environment.loggingEntries <;> cases environment.parserEntries <;> rfl
  · cases environment.loggingEntries <;> cases environment.parserEntries <;>
      cases environment.busEntries <;> rfl

end Environment

/-! ## The merged mapping -/

namespace ConfigSupport

variable {support : ConfigSupport} {file : Entries} {environment : Environment}

/-- A malformed section replaces the default, and what the environment says about it comes on
top. -/
theorem get?_merged_of_spoils (distinct : file.Distinct) {name : String} {value : Value}
    (found : file.get? name = some value) (single : value.isMapping = false) :
    (support.merged file environment).get? name =
      some ((environment.toEntries.get? name).getD value) := by
  have noMapping := Value.ne_map single
  have inFile : ((support.dump .standard).overlay file).get? name = some value := by
    rw [Entries.get?_overlay _ distinct, found]
    cases (support.dump .standard).get? name with
    | none => rfl
    | some default => simp [Value.overlay_of_no_mapping (.inr noMapping)]
  exact Entries.get?_overlay_single environment.distinct_toEntries inFile (.inl noMapping)

/-- A malformed section that the environment does not set stays in the merged mapping. -/
theorem spoils_merged (distinct : file.Distinct) {name : String}
    (isSection : name ∈ ConfigField.sectionNames) (spoils : file.Spoils name)
    (unset : ¬ environment.Sets name) : (support.merged file environment).Spoils name := by
  obtain ⟨value, found, single⟩ := spoils
  refine ⟨value, ?_, single⟩
  rw [get?_merged_of_spoils distinct found single,
    Environment.get?_toEntries_of_not_sets isSection unset]
  rfl

/-- A malformed section that the environment sets holds what the environment says, and
nothing else. -/
theorem given?_merged_of_spoils (distinct : file.Distinct) {field : ConfigField}
    (spoils : file.Spoils field.sectionName) (isSet : environment.Sets field.sectionName) :
    (support.merged file environment).get? field.sectionName =
        some (.map (environment.toEntries.sectionAt field.sectionName)) ∧
      field.given? (support.merged file environment) = field.fromEnvironment? environment := by
  obtain ⟨value, found, single⟩ := spoils
  have replaced : (support.merged file environment).get? field.sectionName =
      some (.map (environment.toEntries.sectionAt field.sectionName)) := by
    rw [get?_merged_of_spoils distinct found single,
      Environment.get?_toEntries_of_sets isSet]
    rfl
  refine ⟨replaced, ?_⟩
  rw [← environment.get?_sectionAt_toEntries, ConfigField.given?, Entries.sectionAt, replaced]

/-- In a malformed section nothing is said about a field. -/
theorem given?_of_spoils {field : ConfigField} (spoils : file.Spoils field.sectionName) :
    field.given? file = none := by
  obtain ⟨value, found, single⟩ := spoils
  rw [ConfigField.given?, Entries.sectionAt, found]
  cases value with
  | map inner => cases single
  | _ => rfl

/-! ## Loading -/

/-- The class of the error that an outcome is, if it is one with a report. -/
def errorClass? : Except ConfigFault RuntimeConfig → Option ErrorClass
  | .ok _ => none
  | .error fault => fault.report?.toOption.map Report.kind

/-- An outcome that is an error of the class for configurations. -/
def IsRefused (outcome : Except ConfigFault RuntimeConfig) : Prop :=
  errorClass? outcome = some .configuration

instance (outcome : Except ConfigFault RuntimeConfig) : Decidable (IsRefused outcome) :=
  inferInstanceAs (Decidable (_ = _))

theorem isRefused_accept_iff {entries : Entries} :
    IsRefused (support.accept entries) ↔ ¬ ∃ config, support.accept entries = .ok config := by
  cases accepted : support.accept entries with
  | ok config => exact iff_of_false (by simp [IsRefused, errorClass?]) (by simp)
  | error fault =>
      obtain ⟨problems, -, rfl⟩ := accept_eq_error accepted
      exact iff_of_true rfl (by simp)

theorem isRefused_of_spoils (lawful : support.Lawful) (distinct : file.Distinct) {name : String}
    (isSection : name ∈ ConfigField.sectionNames) (spoils : file.Spoils name)
    (unset : ¬ environment.Sets name) :
    IsRefused (support.accept (support.merged file environment)) := by
  rw [isRefused_accept_iff]
  rintro ⟨config, accepted⟩
  have sectioned := lawful.sectioned_of_validate (accept_eq_ok_iff.mp accepted)
  exact Entries.sectioned_iff.mp sectioned name isSection
    (spoils_merged distinct isSection spoils unset)

/-- If the environment sets every malformed section, the raw values of the fields decide, as
if the file did not have these sections. -/
theorem Lawful.readsAs_merged_of_replaced (lawful : support.Lawful) (distinct : file.Distinct)
    (sectionDistinct : ∀ name, (file.sectionAt name).Distinct)
    (replaced : ∀ name ∈ ConfigField.sectionNames, file.Spoils name → environment.Sets name) :
    ReadsAs support (support.merged file environment)
      (fun field => field.raw support file environment) := by
  have isSet {field : ConfigField} (spoils : file.Spoils field.sectionName) :
      environment.Sets field.sectionName :=
    replaced _ field.sectionName_mem spoils
  have sound {field : ConfigField} (spoilsNot : ¬ file.Spoils field.sectionName) :=
    lawful.get?_merged distinct
      (fun _ found => Entries.exists_mapping_of_not_spoils spoilsNot found)
      (sectionDistinct field.sectionName) environment
  refine ⟨fun name isSection => ?_, fun field => ?_⟩
  · obtain ⟨field, rfl⟩ := ConfigField.exists_sectionName isSection
    by_cases spoils : file.Spoils field.sectionName
    · rw [(given?_merged_of_spoils distinct spoils (isSet spoils)).1]
      rfl
    · rw [(sound spoils).1]
      rfl
  · by_cases spoils : file.Spoils field.sectionName
    · have raw := field.outcome_raw lawful.toReadsValues file environment
      rw [given?_of_spoils spoils, Option.or_none] at raw
      rw [(given?_merged_of_spoils distinct spoils (isSet spoils)).2, ← raw]
      rfl
    · rw [(sound spoils).2]
      rfl

variable {path text : String}

/-- **Malformed sections.**  A file with a section that is no mapping is refused if the
environment sets nothing.  Under any environment it is refused exactly if the environment
says nothing about the fields of such a section, or if the raw value of a field is refused.
If the environment says something about each such section, the file is loaded as if it had
none of them. -/
theorem load_malformed_iff (lawful : support.Lawful) (readable : ConfigFile.IsReadable path)
    (holds : support.document text = .ok (.map file)) (malformed : ¬ file.Sectioned) :
    IsRefused (support.load (some ⟨path, some text⟩) []).outcome ∧
      ∀ environment : Environment,
        (IsRefused (support.load (some ⟨path, some text⟩) environment).outcome ↔
          (∃ name ∈ ConfigField.sectionNames, file.Spoils name ∧ ¬ environment.Sets name) ∨
            ∃ field : ConfigField,
              field.passes support (field.raw support file environment) = false) ∧
        ((∀ name ∈ ConfigField.sectionNames, file.Spoils name → environment.Sets name) →
          ChecksFields support (fun field => field.raw support file environment)
            (support.load (some ⟨path, some text⟩) environment).outcome) := by
  obtain ⟨distinct, sectionDistinct⟩ := lawful.document_distinct text file holds
  have decides {environment : Environment}
      (replaced : ∀ name ∈ ConfigField.sectionNames,
        file.Spoils name → environment.Sets name) :=
    (lawful.readsAs_merged_of_replaced distinct sectionDistinct replaced).checksFields lawful
  refine ⟨?_, fun environment => ⟨?_, fun replaced => ?_⟩⟩
  · rw [Entries.sectioned_iff] at malformed
    push Not at malformed
    obtain ⟨name, isSection, spoils⟩ := malformed
    rw [load_eq_accept readable holds]
    exact isRefused_of_spoils lawful distinct isSection spoils (Environment.not_sets_nil name)
  · rw [load_eq_accept readable holds]
    by_cases left : ∃ name ∈ ConfigField.sectionNames,
        file.Spoils name ∧ ¬ environment.Sets name
    · obtain ⟨name, isSection, spoils, unset⟩ := left
      exact iff_of_true (isRefused_of_spoils lawful distinct isSection spoils unset)
        (.inl ⟨name, isSection, spoils, unset⟩)
    · have replaced : ∀ name ∈ ConfigField.sectionNames,
          file.Spoils name → environment.Sets name := by
        push Not at left
        exact left
      rw [isRefused_accept_iff, (decides replaced).succeeds_iff, or_iff_right left]
      simp
  · rw [load_eq_accept readable holds]
    exact decides replaced

/-- A document in which one section is null and another one a list. -/
def scrawledText : String :=
  "logging: ~\nparser: [1]\nmodules: \x7blog_create_object: true\x7d\n"

def scrawledEnvironment : Environment :=
  [("XPELL_LOG_FILE", "host.log"), ("XPELL_OBJECT_SELECTOR", "@")]

theorem read_scrawledText :
    ∃ file : Entries, Yaml.read scrawledText = .ok (.map file) ∧
      (ConfigField.sectionNames.filter fun name =>
        !(file.get? name).all Value.isMapping) = ["logging", "parser"] ∧
      ∀ field : ConfigField,
        field.passes .standard (field.raw .standard file scrawledEnvironment) = true := by
  have evaluated : ((entriesOf? (Yaml.read scrawledText)).any fun file =>
      ConfigField.sectionNames.filter (fun name => !(file.get? name).all Value.isMapping) ==
          ["logging", "parser"] &&
        ConfigField.all.all fun field =>
          field.passes .standard (field.raw .standard file scrawledEnvironment)) = true := by
    decide +kernel
  obtain ⟨file, holds, passes⟩ := exists_mapping_of_any evaluated
  rw [Bool.and_eq_true, beq_iff_eq, List.all_eq_true] at passes
  exact ⟨file, holds, passes.1, fun field => passes.2 field field.mem_all⟩

theorem load_malformed_iff_scrawled :
    IsRefused (standard.load (some ⟨"app.yaml", some scrawledText⟩) []).outcome ∧
      IsRefused
        (standard.load (some ⟨"app.yaml", some scrawledText⟩)
          [("XPELL_LOG_FILE", "host.log")]).outcome ∧
      ∃ config,
        (standard.load (some ⟨"app.yaml", some scrawledText⟩) scrawledEnvironment).outcome =
          .ok config := by
  obtain ⟨file, holds, malformed, passes⟩ := read_scrawledText
  have spoils_iff (name : String) :
      name ∈ ConfigField.sectionNames ∧ file.Spoils name ↔ name ∈ ["logging", "parser"] := by
    rw [← malformed, List.mem_filter, Entries.spoils_iff, Bool.not_eq_true']
  obtain ⟨isSection, spoils⟩ := (spoils_iff "parser").mpr (by decide)
  have notSectioned : ¬ file.Sectioned := fun sectioned =>
    Entries.sectioned_iff.mp sectioned "parser" isSection spoils
  obtain ⟨refused, decided⟩ :=
    load_malformed_iff standard_lawful
      (show ConfigFile.IsReadable "app.yaml" by decide +kernel) holds notSectioned
  refine ⟨refused, (decided _).1.mpr (.inl ⟨"parser", isSection, spoils, ?_⟩), ?_⟩
  · rintro ⟨field, isParser, isSet⟩
    cases field <;> first | exact absurd isSet (by decide) | exact absurd isParser (by decide)
  · have replaced : ∀ name ∈ ConfigField.sectionNames, file.Spoils name →
        scrawledEnvironment.Sets name := by
      intro name isSection spoils
      have isOne := (spoils_iff name).mp ⟨isSection, spoils⟩
      simp only [List.mem_cons, List.not_mem_nil, or_false] at isOne
      rcases isOne with rfl | rfl
      · exact ⟨.logFile, rfl, rfl⟩
      · exact ⟨.selector, rfl, rfl⟩
    exact ((decided scrawledEnvironment).2 replaced).succeeds_iff.mpr passes

/-- A section that is a number is refused, but no longer when the environment sets the level:
then the configuration is that of the environment. -/
theorem malformed_section_hidden :
    let file : ConfigFile := ⟨"app.yaml", some "logging: 5\n"⟩
    (∃ entries : Entries, Yaml.read "logging: 5\n" = .ok (.map entries) ∧
        ¬ entries.Sectioned) ∧
      IsRefused (standard.load (some file) []).outcome ∧
      (standard.load (some file) [("XPELL_LOG_LEVEL", "INFO")]).outcome.toOption =
        some .standard := by
  intro file
  have evaluated : ((entriesOf? (Yaml.read "logging: 5\n")).any fun entries =>
      decide ¬ Entries.Sectioned entries) = true := by
    decide +kernel
  obtain ⟨entries, holds, malformed⟩ := exists_mapping_of_any evaluated
  exact ⟨⟨entries, holds, of_decide_eq_true malformed⟩, by decide +kernel, by decide +kernel⟩

end ConfigSupport

end CommandHost
