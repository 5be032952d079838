import CommandHost.Proofs.Config.Fields
import CommandHost.Proofs.Yaml.Mapping

/-!
# The checks of the program do what is relied on

The checks in `RuntimeConfig.read` go through the fields one by one, the dumps hold what
the fields hold, and the reader of documents builds its mappings entry by entry.  So
`ConfigSupport.standard` is lawful.
-/

namespace CommandHost

/-! ## Single values -/

theorem findsOne_found {α : Type} (kind : ProblemKind) (value : Option α) :
    Checked.FindsOne (Checked.found kind value) := by
  cases value with
  | none => exact Checked.findsOne_problem kind
  | some content => exact Checked.findsOne_ok content

theorem findsOne_readText (value : Value) : Checked.FindsOne (readText value) := by
  unfold readText
  split
  · exact Checked.findsOne_ok _
  · exact Checked.findsOne_problem .notText

theorem findsOne_readOptionalText (value : Value) :
    Checked.FindsOne (readOptionalText value) := by
  unfold readOptionalText
  split
  · exact Checked.findsOne_ok none
  · exact Checked.findsOne_ok _
  · exact Checked.findsOne_problem .notText

theorem findsOne_readBit (fits : Bool) (number : Int) :
    Checked.FindsOne (readBit fits number) := by
  unfold readBit
  split
  · exact Checked.findsOne_ok false
  · split
    · exact Checked.findsOne_ok true
    · exact Checked.findsOne_problem _

theorem findsOne_readFlag (value : Value) : Checked.FindsOne (readFlag value) := by
  unfold readFlag
  split
  · exact Checked.findsOne_ok _
  · exact findsOne_readBit _ _
  · split
    · exact findsOne_readBit _ _
    · exact Checked.findsOne_problem .notFlag
  · dsimp only
    split
    · exact Checked.findsOne_ok false
    · split
      · exact Checked.findsOne_ok true
      · exact Checked.findsOne_problem .unreadFlag
  · exact Checked.findsOne_problem .notFlag

theorem findsOne_readLevel (value : Value) : Checked.FindsOne (readLevel value) := by
  unfold readLevel
  split
  · exact findsOne_found _ _
  · exact findsOne_found _ _
  · exact Checked.findsOne_problem .notLevel

theorem findsOne_readFormat (value : Value) : Checked.FindsOne (readFormat value) := by
  unfold readFormat
  split
  · exact findsOne_found _ _
  · exact findsOne_found _ _
  · exact Checked.findsOne_problem .notFormat

theorem LogLevel.find?_label (level : LogLevel) :
    (all.find? fun other => other.label == level.label) = some level := by
  cases level <;> decide +kernel

theorem LogFormat.find?_label (format : LogFormat) :
    (all.find? fun other => other.label == format.label) = some format := by
  cases format <;> decide +kernel

namespace ConfigSupport

theorem standard_readsValues : standard.ReadsValues where
  text_one := findsOne_readText
  optionalText_one := findsOne_readOptionalText
  flag_one := findsOne_readFlag
  level_one := findsOne_readLevel
  format_one := findsOne_readFormat
  text_text _ := rfl
  optionalText_null := rfl
  optionalText_text _ := rfl
  flag_bool _ := rfl
  level_name level := by cases level <;> rfl
  level_member level := congrArg (Checked.found .notLevel) level.find?_label
  format_name format := by cases format <;> rfl
  format_member format := congrArg (Checked.found .notFormat) format.find?_label
  levelMember_ne_map _ _ := nofun
  formatMember_ne_map _ _ := nofun

end ConfigSupport

/-! ## Mappings -/

namespace RuntimeConfig

variable {entries : Entries}

theorem field_of_value {α : Type} {key : String} {value : Value}
    (present : entries.get? key = some value) (default : α) (read : Value → Checked α) :
    Checked.field entries key default read = Checked.under key (read value) := by
  simp [Checked.field, present]

/-- What comes of a field of the standard checks. -/
abbrev outcomeOf (entries : Entries) (field : ConfigField) : Checked field.Content :=
  field.outcome .standard (field.given? entries)

/-- A field is read from its section. -/
theorem field_eq_outcome (entries : Entries) (field : ConfigField) :
    Checked.field (entries.sectionAt field.sectionName) field.key (field.read .standard)
        (field.check .standard) =
      Checked.under field.key (outcomeOf entries field) := by
  unfold Checked.field outcomeOf ConfigField.given?
  cases (entries.sectionAt field.sectionName).get? field.key <;> rfl

/-- A section that is a mapping, or is not there, is read as a mapping. -/
theorem field_section {α : Type} (sectioned : entries.Sectioned) (name : String)
    (isSection : name ∈ ConfigField.sectionNames) (className : String) {default : α}
    {read : Entries → Checked α} (empty : read [] = .ok default) :
    Checked.field entries name default (readSection className read) =
      Checked.under name (read (entries.sectionAt name)) := by
  have isMapping := sectioned name isSection
  unfold Checked.field Entries.sectionAt
  cases found : entries.get? name with
  | none => simp [empty]
  | some value =>
      rw [found] at isMapping
      cases value with
      | map inner => rfl
      | _ => cases isMapping

theorem read_eq (sectioned : entries.Sectioned) :
    read entries =
      ((((Checked.under "logging" (LoggingConfig.read (entries.sectionAt "logging"))).both
          (Checked.under "parser" (ReaderSettings.read (entries.sectionAt "parser")))).both
          (Checked.under "event_bus" (BusConfig.read (entries.sectionAt "event_bus")))).both
          (Checked.under "modules" (ModuleConfig.read (entries.sectionAt "modules")))).map
        fun (((logging, parser), bus), modules) => ⟨logging, parser, bus, modules⟩ := by
  have logging := field_section sectioned "logging" (by decide) "LoggingConfig"
    (show LoggingConfig.read [] = .ok .standard from rfl)
  have parser := field_section sectioned "parser" (by decide) "ParserConfig"
    (show ReaderSettings.read [] = .ok .standard from rfl)
  have bus := field_section sectioned "event_bus" (by decide) "EventBusConfig"
    (show BusConfig.read [] = .ok .standard from rfl)
  have modules := field_section sectioned "modules" (by decide) "ModuleConfig"
    (show ModuleConfig.read [] = .ok .standard from rfl)
  rw [← logging, ← parser, ← bus, ← modules]
  rfl

theorem logging_eq (entries : Entries) :
    LoggingConfig.read (entries.sectionAt "logging") =
      (((Checked.under "level" (outcomeOf entries .level)).both
        (Checked.under "log_file" (outcomeOf entries .logFile))).both
        (Checked.under "format" (outcomeOf entries .format))).map
          fun ((level, logFile), format) => ⟨level, logFile, format⟩ :=
  congrArg (Except.map _)
    (congrArg₂ Checked.both
      (congrArg₂ Checked.both (field_eq_outcome entries .level)
        (field_eq_outcome entries .logFile))
      (field_eq_outcome entries .format))

theorem parser_eq (entries : Entries) :
    ReaderSettings.read (entries.sectionAt "parser") =
      ((Checked.under "object_selector" (outcomeOf entries .selector)).both
        (Checked.under "space_sentinel" (outcomeOf entries .sentinel))).map
          fun (selector, sentinel) => ⟨selector, sentinel⟩ :=
  congrArg (Except.map _)
    (congrArg₂ Checked.both (field_eq_outcome entries .selector)
      (field_eq_outcome entries .sentinel))

theorem bus_eq (entries : Entries) :
    BusConfig.read (entries.sectionAt "event_bus") =
      (((Checked.under "log_register" (outcomeOf entries .logRegister)).both
        (Checked.under "log_remove" (outcomeOf entries .logRemove))).both
        (Checked.under "log_fire" (outcomeOf entries .logFire))).map
          fun ((logRegister, logRemove), logFire) => ⟨logRegister, logRemove, logFire⟩ :=
  congrArg (Except.map _)
    (congrArg₂ Checked.both
      (congrArg₂ Checked.both (field_eq_outcome entries .logRegister)
        (field_eq_outcome entries .logRemove))
      (field_eq_outcome entries .logFire))

theorem modules_eq (entries : Entries) :
    ModuleConfig.read (entries.sectionAt "modules") =
      (((Checked.under "log_create_object" (outcomeOf entries .logCreateObject)).both
        (Checked.under "log_remove_object" (outcomeOf entries .logRemoveObject))).both
        (Checked.under "object_count_suffix" (outcomeOf entries .countSuffix))).map
          fun ((logCreateObject, logRemoveObject), countSuffix) =>
            ⟨logCreateObject, logRemoveObject, countSuffix⟩ :=
  congrArg (Except.map _)
    (congrArg₂ Checked.both
      (congrArg₂ Checked.both (field_eq_outcome entries .logCreateObject)
        (field_eq_outcome entries .logRemoveObject))
      (field_eq_outcome entries .countSuffix))

/-- A configuration is read from a mapping of sections exactly if it holds what comes of each
field. -/
theorem read_eq_ok_iff (sectioned : entries.Sectioned) (config : RuntimeConfig) :
    read entries = .ok config ↔
      ∀ field : ConfigField, outcomeOf entries field = .ok (field.read config) := by
  obtain ⟨⟨level, logFile, format⟩, ⟨selector, sentinel⟩, ⟨logRegister, logRemove, logFire⟩,
    ⟨logCreateObject, logRemoveObject, countSuffix⟩⟩ := config
  rw [read_eq sectioned, logging_eq, parser_eq, bus_eq, modules_eq]
  simp only [map_eq_ok_iff, Checked.both_eq_ok_iff, Checked.under_eq_ok_iff, Prod.exists,
    RuntimeConfig.mk.injEq]
  constructor
  · rintro ⟨_, _, _, _, ⟨⟨⟨⟨_, _, _, ⟨⟨level, logFile⟩, format⟩, rfl⟩,
      ⟨_, _, ⟨selector, sentinel⟩, rfl⟩⟩,
      ⟨_, _, _, ⟨⟨logRegister, logRemove⟩, logFire⟩, rfl⟩⟩,
      ⟨_, _, _, ⟨⟨logCreateObject, logRemoveObject⟩, countSuffix⟩, rfl⟩⟩, ⟨⟩, ⟨⟩, ⟨⟩, ⟨⟩⟩ field
    cases field <;> assumption
  · intro holds
    exact ⟨_, _, _, _,
      ⟨⟨⟨⟨_, _, _, ⟨⟨holds .level, holds .logFile⟩, holds .format⟩, rfl⟩,
          ⟨_, _, ⟨holds .selector, holds .sentinel⟩, rfl⟩⟩,
        ⟨_, _, _, ⟨⟨holds .logRegister, holds .logRemove⟩, holds .logFire⟩, rfl⟩⟩,
        ⟨_, _, _, ⟨⟨holds .logCreateObject, holds .logRemoveObject⟩, holds .countSuffix⟩, rfl⟩⟩,
      rfl, rfl, rfl, rfl⟩

/-- The problems of reading a mapping of sections are those of its fields in order. -/
theorem problems_read (sectioned : entries.Sectioned) :
    (read entries).problems =
      ConfigField.all.flatMap fun field => field.problems .standard (field.given? entries) := by
  rw [read_eq sectioned, logging_eq, parser_eq, bus_eq, modules_eq]
  simp [ConfigField.all, ConfigField.problems, ConfigField.sectionName, ConfigField.key]

/-- The sections of a mapping that is read have to be mappings. -/
theorem isMapping_of_field {α : Type} {name : String} {value : Value}
    (found : entries.get? name = some value) {className : String} {default content : α}
    {read : Entries → Checked α}
    (accepted : Checked.field entries name default (readSection className read) = .ok content) :
    value.isMapping = true := by
  rw [field_of_value found, Checked.under_eq_ok_iff] at accepted
  cases value with
  | map inner => rfl
  | _ => cases accepted

theorem sectioned_of_read {config : RuntimeConfig} (accepted : read entries = .ok config) :
    entries.Sectioned := by
  simp only [read, map_eq_ok_iff, Checked.both_eq_ok_iff] at accepted
  obtain ⟨_, ⟨⟨⟨logging, parser⟩, bus⟩, modules⟩, -⟩ := accepted
  intro name isSection
  cases found : entries.get? name with
  | none => rfl
  | some value =>
      simp only [ConfigField.sectionNames, List.mem_cons, List.not_mem_nil, or_false] at isSection
      rcases isSection with rfl | rfl | rfl | rfl
      · exact isMapping_of_field found logging
      · exact isMapping_of_field found parser
      · exact isMapping_of_field found bus
      · exact isMapping_of_field found modules

end RuntimeConfig

namespace ConfigSupport

theorem standard_readsMappings : standard.ReadsMappings where
  validate_eq_ok_iff entries config := by
    constructor
    · intro accepted
      have sectioned := RuntimeConfig.sectioned_of_read accepted
      exact ⟨sectioned, (RuntimeConfig.read_eq_ok_iff sectioned config).mp accepted⟩
    · rintro ⟨sectioned, holds⟩
      exact (RuntimeConfig.read_eq_ok_iff sectioned config).mpr holds
  problems_eq entries sectioned found refused := by
    rw [← RuntimeConfig.problems_read sectioned, show RuntimeConfig.read entries = _ from refused,
      Checked.problems_error]

/-! ## What is written out -/

theorem standard_writesMappings : standard.WritesMappings where
  dump_eq config field := by
    cases field <;> exact ⟨rfl, rfl⟩
  dumpPlain_sectioned config name isSection := by
    simp only [ConfigField.sectionNames, List.mem_cons, List.not_mem_nil, or_false] at isSection
    obtain rfl | rfl | rfl | rfl := isSection <;> rfl
  dumpPlain_isPlain config := by
    obtain ⟨⟨level, logFile, format⟩, parser, bus, modules⟩ := config
    cases logFile <;> rfl
  dumpPlain_given config field := by
    obtain ⟨⟨level, logFile, format⟩, parser, bus, modules⟩ := config
    cases logFile <;> cases field <;> rfl

/-- No mapping of a document has a key twice. -/
theorem distinct_of_read {text : String} {file : Entries}
    (holds : Yaml.read text = .ok (.map file)) :
    file.Distinct ∧ ∀ name, (file.sectionAt name).Distinct := by
  have isValue : Yaml.IsNodeValue (.map file) := by
    rw [Yaml.read, bind_eq_ok_iff] at holds
    obtain ⟨tokens, -, holds⟩ := holds
    rw [bind_eq_ok_iff] at holds
    obtain ⟨node, -, valued⟩ := holds
    cases node with
    | none => simp [pure, Except.pure] at valued
    | some node => exact ⟨node, valued⟩
  refine ⟨isValue.of_map.1, fun name => ?_⟩
  unfold Entries.sectionAt
  split
  · next inner present =>
      exact (isValue.of_map.2 _ (Entries.mem_values_of_get? present)).of_map.1
  · exact List.Pairwise.nil

/-- **The usual libraries.**  What is relied on holds of the checks of this program and of its
reader of documents. -/
theorem standard_lawful : standard.Lawful where
  toReadsValues := standard_readsValues
  toReadsMappings := standard_readsMappings
  toWritesMappings := standard_writesMappings
  document_distinct _ _ := distinct_of_read

end ConfigSupport

end CommandHost
