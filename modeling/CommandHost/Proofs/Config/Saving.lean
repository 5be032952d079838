import CommandHost.Proofs.Config.Layering

/-!
# Saving a configuration

A configuration is saved as a mapping of its sections, in which a file that is not given
is left out and levels and formats are names.  Loading goes through the defaults and all
checks again.  The main statement: what was saved is loaded as the same configuration,
if the text that was written holds the mapping that was saved.
-/

namespace CommandHost

/-! ## Valid configurations -/

/-- A configuration whose selector and sentinel are markers.  Nothing else about a
configuration is restricted. -/
structure RuntimeConfig.IsValid (config : RuntimeConfig) : Prop where
  selector : IsMarker config.parser.selector
  sentinel : IsMarker config.parser.sentinel

/-! ## Plain values that are the same -/

mutual

/-- Whether two plain values are the same, the order of entries included. -/
def Value.plainlySame : Value → Value → Bool
  | .text content, .text other => content == other
  | .bool flag, .bool other => flag == other
  | .map entries, .map others => Entries.plainlySame entries others
  | _, _ => false

def Entries.plainlySame : List (Atom × Value) → List (Atom × Value) → Bool
  | [], [] => true
  | (.text key, value) :: rest, (.text other, content) :: others =>
    key == other && value.plainlySame content && Entries.plainlySame rest others
  | _, _ => false

end

mutual

theorem Value.eq_of_plainlySame : ∀ {value other : Value},
    value.plainlySame other = true → value = other
  | .text content, other, same => by
      cases other with
      | atom atom => cases atom <;> simp_all [Value.plainlySame]
      | _ => simp [Value.plainlySame] at same
  | .bool flag, other, same => by
      cases other with
      | atom atom => cases atom <;> simp_all [Value.plainlySame]
      | _ => simp [Value.plainlySame] at same
  | .map entries, other, same => by
      cases other with
      | map others =>
        rw [Value.plainlySame] at same
        rw [Entries.eq_of_plainlySame same]
      | _ => simp [Value.plainlySame] at same
  | .list _, _, same => by simp [Value.plainlySame] at same
  | .null, _, same => by simp [Value.plainlySame] at same
  | .int _, _, same => by simp [Value.plainlySame] at same
  | .float _, _, same => by simp [Value.plainlySame] at same
  | .atom (.moment _), _, same => by simp [Value.plainlySame] at same
  | .object _, _, same => by simp [Value.plainlySame] at same

theorem Entries.eq_of_plainlySame : ∀ {entries others : List (Atom × Value)},
    Entries.plainlySame entries others = true → entries = others
  | [], others, same => by
      cases others with
      | nil => rfl
      | cons head tail => simp [Entries.plainlySame] at same
  | (key, value) :: rest, [], same => by
      cases key <;> simp [Entries.plainlySame] at same
  | (key, value) :: rest, (other, content) :: others, same => by
      cases key <;> cases other <;>
        simp only [Entries.plainlySame, Bool.and_eq_true, beq_iff_eq, Bool.false_eq_true] at same
      obtain ⟨⟨rfl, sameValue⟩, sameRest⟩ := same
      rw [Value.eq_of_plainlySame sameValue, Entries.eq_of_plainlySame sameRest]

end

/-! ## Saving and loading -/

namespace ConfigSupport

variable {support : ConfigSupport}

theorem ReadsValues.bind_checkMarker (reads : support.ReadsValues) {content : String}
    (marker : IsMarker content) :
    (support.text (.text content)).bind checkMarker = .ok content := by
  rw [reads.text_text]
  exact checkMarker_eq_ok_iff.mpr ⟨marker, rfl⟩

/-- What is saved of a field passes the check of the field and gives what the field held.
Where nothing is saved, that is the default. -/
theorem ReadsValues.outcome_saved (reads : support.ReadsValues) {config : RuntimeConfig}
    (valid : config.IsValid) (field : ConfigField) :
    field.outcome support (field.saved? config) = .ok (field.read config) := by
  cases field
  case level => exact reads.level_name _
  case format => exact reads.format_name _
  case logFile =>
    -- No file is saved as nothing, and read back from the default.
    simp only [ConfigField.saved?, ConfigField.read]
    cases config.logging.logFile with
    | none => rfl
    | some content => exact reads.optionalText_text content
  case selector => exact reads.bind_checkMarker valid.selector
  case sentinel => exact reads.bind_checkMarker valid.sentinel
  case countSuffix => exact reads.text_text _
  all_goals exact reads.flag_bool _

/-- **Save, then load.**  A valid configuration that was saved is loaded as it was, under an
environment that sets nothing.  The text that is written for a mapping of texts and flags
has to be read as that mapping. -/
theorem load_save (lawful : support.Lawful) (emit : Entries → String) {config : RuntimeConfig}
    (valid : config.IsValid) {path : String} (readable : ConfigFile.IsReadable path)
    (undone : (Value.map (support.dumpPlain config)).isPlain = true →
      support.document (emit (support.dumpPlain config)) =
        .ok (.map (support.dumpPlain config))) :
    support.load (some (support.save emit config path)) [] = ⟨[], .ok config⟩ := by
  have holds := undone (lawful.dumpPlain_isPlain config)
  obtain ⟨distinct, sectionDistinct⟩ := lawful.document_distinct _ _ holds
  have filled :=
    lawful.readsAs_merged distinct (lawful.dumpPlain_sectioned config) sectionDistinct []
  have accepted : support.accept (support.merged (support.dumpPlain config) []) =
      .ok config := by
    rw [(filled.checksFields lawful).ok_iff]
    intro field
    calc field.outcome support (some (field.raw support (support.dumpPlain config) []))
        = field.outcome support (field.given? (support.dumpPlain config)) := by
          rw [field.outcome_raw lawful.toReadsValues, field.fromEnvironment?_nil,
            Option.none_or]
      _ = field.outcome support (field.saved? config) := by
          rw [lawful.dumpPlain_given]
      _ = .ok (field.read config) := lawful.outcome_saved valid field
  have outcome : (support.load (some (support.save emit config path)) []).outcome =
      .ok config := by
    rw [save, load_eq_accept readable holds]
    exact accepted
  have silent : (support.load (some (support.save emit config path)) []).logs = [] := by
    simp only [load, save, readable.ne_empty, if_false]
  rw [← silent, ← outcome]

/-- A configuration with a file without a name, and with texts that have to be quoted so
that they are not taken for something else. -/
def quaint : RuntimeConfig :=
  ⟨⟨.debug, some "", .json⟩, ⟨"@@", "~"⟩, ⟨true, false, true⟩, ⟨false, true, "yes"⟩⟩

def quaintText : String :=
  "logging:\n  level: DEBUG\n  log_file: ''\n  format: json\n" ++
    "parser:\n  object_selector: '@@'\n  space_sentinel: '~'\n" ++
    "event_bus:\n  log_register: true\n  log_remove: false\n  log_fire: true\n" ++
    "modules:\n  log_create_object: false\n  log_remove_object: true\n" ++
    "  object_count_suffix: 'yes'\n"

theorem read_quaintText : Yaml.read quaintText = .ok (.map quaint.savedEntries) := by
  -- Equality of values cannot be decided, sameness of plain ones can be evaluated.
  have evaluated :
      (match Yaml.read quaintText with
        | .ok value => value.plainlySame (.map quaint.savedEntries)
        | .error _ => false) = true := by
    decide +kernel
  cases found : Yaml.read quaintText with
  | error fault => simp [found] at evaluated
  | ok value =>
      rw [found] at evaluated
      rw [Value.eq_of_plainlySame evaluated]

theorem load_save_quaint :
    standard.load (some (standard.save (fun _ => quaintText) quaint "conf.d/app.yaml")) [] =
      ⟨[], .ok quaint⟩ := by
  have selector : checkMarker quaint.parser.selector = .ok quaint.parser.selector := rfl
  have sentinel : checkMarker quaint.parser.sentinel = .ok quaint.parser.sentinel := rfl
  have valid : quaint.IsValid :=
    ⟨(checkMarker_eq_ok_iff.mp selector).1, (checkMarker_eq_ok_iff.mp sentinel).1⟩
  exact load_save standard_lawful _ valid (by decide +kernel) fun _ => read_quaintText

end ConfigSupport

end CommandHost
