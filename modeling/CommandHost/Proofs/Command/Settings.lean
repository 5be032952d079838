import CommandHost.Proofs.Command.Filling
import CommandHost.Proofs.Config.Standard

/-!
# Settings in use

The settings of a reader are checked twice: when a configuration is read, and when one of
them is assigned to a reader in use.  The two checks agree about the sentinel.  About the
selector they do not: an assignment only wants a text that is not empty.

The main statements: after any assignments the settings are accepted as a configuration
exactly if no blank stands in the selector that was assigned last; and under any sentinel
that was accepted nothing is left to be unescaped in what was unescaped.
-/

namespace CommandHost.ReaderSettings

/-! ## Single assignments -/

variable {settings later : ReaderSettings} {value : Value}

theorem choose_selector_eq_ok_iff :
    settings.choose .selector value = .ok later ↔
      ∃ content, value = .text content ∧ content ≠ "" ∧
        later = { settings with selector := content } := by
  dsimp only [choose]
  unfold setSelector
  split
  · next content =>
      by_cases empty : content = ""
      · simp [empty]
      · simp [empty, eq_comm]
  · next other =>
      refine iff_of_false (by simp) ?_
      rintro ⟨content, isText, -⟩
      exact other content isText

theorem choose_sentinel_eq_ok_iff :
    settings.choose .sentinel value = .ok later ↔
      ∃ content, value = .text content ∧ IsMarker content ∧
        later = { settings with sentinel := content } := by
  dsimp only [choose]
  unfold setSentinel
  split
  · next content =>
      by_cases unfit : (decide (content = "") || content.toList.any Text.isBlank) = true
      · have noMarker : ¬ IsMarker content := by
          rintro ⟨nonempty, solid⟩
          rw [Bool.or_eq_true, decide_eq_true_eq, List.any_eq_true] at unfit
          rcases unfit with empty | ⟨c, member, blank⟩
          · exact nonempty empty
          · simp [solid c member] at blank
        simp [unfit, noMarker]
      · have marker : IsMarker content := by simpa [IsMarker] using unfit
        rw [if_neg unfit]
        simp [marker, eq_comm]
  · next other =>
      refine iff_of_false (by simp) ?_
      rintro ⟨content, isText, -⟩
      exact other content isText

theorem assign_run (setting : ReaderSetting) (value : Value) (settings : ReaderSettings) :
    (assign setting value).run settings =
      match settings.choose setting value with
      | .ok chosen => .ok () chosen
      | .error fault => .error fault settings := by
  have unfolded : (assign setting value).run settings =
      (match settings.choose setting value with
        | .ok chosen => set chosen
        | .error fault => throw fault : EStateM SettingFault ReaderSettings Unit).run
          settings := rfl
  rw [unfolded]
  cases settings.choose setting value <;> rfl

/-! ## Assignments in a row -/

/-- What one assignment leaves, be it refused or not. -/
def afterAssignment (settings : ReaderSettings) (assignment : ReaderSetting × Value) :
    ReaderSettings :=
  match (assign assignment.1 assignment.2).run settings with
  | .ok _ changed => changed
  | .error _ left => left

/-- What assignments leave that are made one after another. -/
def after (settings : ReaderSettings) (assignments : List (ReaderSetting × Value)) :
    ReaderSettings :=
  assignments.foldl afterAssignment settings

/-- The text that an assignment makes the selector, unless it is refused or concerns the
sentinel. -/
def newSelector? : ReaderSetting × Value → Option String
  | (.selector, .text content) => if content = "" then none else some content
  | _ => none

/-- The text that was last made the selector. -/
def lastSelector? (assignments : List (ReaderSetting × Value)) : Option String :=
  (assignments.filterMap newSelector?).getLast?

theorem afterAssignment_eq (settings : ReaderSettings)
    (assignment : ReaderSetting × Value) :
    afterAssignment settings assignment =
      ((settings.choose assignment.1 assignment.2).toOption).getD settings := by
  rw [afterAssignment, assign_run]
  cases settings.choose assignment.1 assignment.2 <;> rfl

theorem selector_afterAssignment (settings : ReaderSettings)
    (assignment : ReaderSetting × Value) :
    (afterAssignment settings assignment).selector =
      (newSelector? assignment).getD settings.selector := by
  obtain ⟨setting, value⟩ := assignment
  rw [afterAssignment_eq]
  cases chosen : settings.choose setting value with
  | error fault =>
      have refused : newSelector? (setting, value) = none := by
        unfold newSelector?
        split
        · next content same =>
            obtain ⟨rfl, rfl⟩ := Prod.mk.inj same
            by_contra accepted
            have nonempty : content ≠ "" := by simpa using accepted
            have holds := choose_selector_eq_ok_iff.mpr
              ⟨content, rfl, nonempty, (rfl : _ = { settings with selector := content })⟩
            rw [holds] at chosen
            cases chosen
        · rfl
      rw [refused]
      rfl
  | ok later =>
      cases setting with
      | selector =>
          obtain ⟨content, rfl, nonempty, rfl⟩ := choose_selector_eq_ok_iff.mp chosen
          simp [newSelector?, nonempty, Except.toOption]
      | sentinel =>
          obtain ⟨content, rfl, -, rfl⟩ := choose_sentinel_eq_ok_iff.mp chosen
          rfl

theorem sentinel_afterAssignment {settings : ReaderSettings}
    (marker : IsMarker settings.sentinel) (assignment : ReaderSetting × Value) :
    IsMarker (afterAssignment settings assignment).sentinel := by
  obtain ⟨setting, value⟩ := assignment
  rw [afterAssignment_eq]
  cases chosen : settings.choose setting value with
  | error fault => exact marker
  | ok later =>
      cases setting with
      | selector =>
          obtain ⟨content, -, -, rfl⟩ := choose_selector_eq_ok_iff.mp chosen
          exact marker
      | sentinel =>
          obtain ⟨content, -, contentMarker, rfl⟩ := choose_sentinel_eq_ok_iff.mp chosen
          exact contentMarker

theorem after_append (settings : ReaderSettings) (assignments : List (ReaderSetting × Value))
    (last : ReaderSetting × Value) :
    after settings (assignments ++ [last]) = afterAssignment (after settings assignments) last := by
  simp [after]

/-- The selector is the text that was last made it. -/
theorem selector_after (settings : ReaderSettings)
    (assignments : List (ReaderSetting × Value)) :
    (after settings assignments).selector =
      (lastSelector? assignments).getD settings.selector := by
  -- From the end, where the last assignment counts if it was accepted.
  induction assignments using List.reverseRecOn with
  | nil => rfl
  | append_singleton assignments last inductionHypothesis =>
      rw [after_append, selector_afterAssignment, inductionHypothesis, lastSelector?,
        lastSelector?, List.filterMap_append]
      cases new : newSelector? last with
      | none => simp [new]
      | some content => simp [new]

theorem sentinel_after {settings : ReaderSettings} (marker : IsMarker settings.sentinel)
    (assignments : List (ReaderSetting × Value)) :
    IsMarker (after settings assignments).sentinel := by
  induction assignments generalizing settings with
  | nil => exact marker
  | cons first rest inductionHypothesis =>
      exact inductionHypothesis (sentinel_afterAssignment marker first)

theorem lastSelector?_ne_empty {assignments : List (ReaderSetting × Value)} {content : String}
    (last : lastSelector? assignments = some content) : content ≠ "" := by
  obtain ⟨⟨setting, value⟩, -, new⟩ :=
    List.mem_filterMap.mp (List.mem_of_getLast? last)
  unfold newSelector? at new
  split at new
  · split at new
    · cases new
    · next nonempty => rwa [← Option.some.inj new]
  · cases new

/-! ## Settings as a configuration -/

/-- Settings that are accepted as a configuration. -/
def IsAccepted (settings : ReaderSettings) : Prop := ∃ found, read settings.dump = .ok found

/-- Both settings are checked, whatever the check of the other one finds. -/
theorem read_dump_eq (settings : ReaderSettings) :
    read settings.dump =
      ((Checked.under "object_selector" (readMarker (.text settings.selector))).both
        (Checked.under "space_sentinel" (readMarker (.text settings.sentinel)))).map
          fun (selector, sentinel) => ⟨selector, sentinel⟩ := by
  have selector : settings.dump.get? "object_selector" = some (.text settings.selector) := rfl
  have sentinel : settings.dump.get? "space_sentinel" = some (.text settings.sentinel) := rfl
  rw [read, RuntimeConfig.field_of_value selector, RuntimeConfig.field_of_value sentinel]

theorem readMarker_text_iff {content other : String} :
    readMarker (.text content) = .ok other ↔ IsMarker content ∧ content = other :=
  checkMarker_eq_ok_iff

theorem isAccepted_iff {settings : ReaderSettings} :
    settings.IsAccepted ↔ IsMarker settings.selector ∧ IsMarker settings.sentinel := by
  simp only [IsAccepted, read_dump_eq, map_eq_ok_iff, Checked.both_eq_ok_iff,
    Checked.under_eq_ok_iff, Prod.exists]
  constructor
  · rintro ⟨found, selector, sentinel, ⟨selectorRead, sentinelRead⟩, -⟩
    exact ⟨(readMarker_text_iff.mp selectorRead).1, (readMarker_text_iff.mp sentinelRead).1⟩
  · rintro ⟨selector, sentinel⟩
    exact ⟨_, _, _, ⟨readMarker_text_iff.mpr ⟨selector, rfl⟩,
      readMarker_text_iff.mpr ⟨sentinel, rfl⟩⟩, rfl⟩

/-- A blank in a selector that is not empty is the only thing that is found. -/
theorem read_dump_of_blank {settings : ReaderSettings} (nonempty : settings.selector ≠ "")
    (marker : IsMarker settings.sentinel)
    (blank : ¬ ∀ c ∈ settings.selector.toList, Text.isBlank c = false) :
    read settings.dump = .error [⟨["object_selector"], .blankInside⟩] := by
  have found : settings.selector.toList.any Text.isBlank = true := by simpa using blank
  have selectorRead : readMarker (.text settings.selector) = .problem .blankInside := by
    simp [readMarker, readText, Except.bind, checkMarker, nonempty, found]
  rw [read_dump_eq, selectorRead, readMarker_text_iff.mpr ⟨marker, rfl⟩]
  rfl

theorem isMarker_of_readMarker {value : Value} {content : String}
    (accepted : readMarker value = .ok content) : IsMarker content := by
  obtain ⟨text, -, checked⟩ := bind_eq_ok_iff.mp accepted
  obtain ⟨marker, rfl⟩ := checkMarker_eq_ok_iff.mp checked
  exact marker

/-- A marker that was read is a default that is one, or what the check accepted. -/
theorem isMarker_of_field {entries : Entries} {key default content : String}
    (marker : IsMarker default)
    (found : Checked.field entries key default readMarker = .ok content) : IsMarker content := by
  unfold Checked.field at found
  split at found
  · cases found
    exact marker
  · exact isMarker_of_readMarker (Checked.under_eq_ok_iff.mp found)

theorem isMarker_of_read {entries : Entries} {settings : ReaderSettings}
    (found : read entries = .ok settings) :
    IsMarker settings.selector ∧ IsMarker settings.sentinel := by
  obtain ⟨selectorMarker, sentinelMarker⟩ :=
    isAccepted_iff.mp (show standard.IsAccepted from ⟨standard, rfl⟩)
  simp only [read, map_eq_ok_iff, Checked.both_eq_ok_iff] at found
  obtain ⟨⟨selector, sentinel⟩, ⟨selectorRead, sentinelRead⟩, rfl⟩ := found
  exact ⟨isMarker_of_field selectorMarker selectorRead,
    isMarker_of_field sentinelMarker sentinelRead⟩

theorem ofConfig_eq {config : ReaderSettings} (accepted : config.IsAccepted) :
    ofConfig config = .ok config := by
  obtain ⟨selectorMarker, sentinelMarker⟩ := isAccepted_iff.mp accepted
  have selector : choose ⟨"", ""⟩ .selector (.text config.selector) =
      .ok ⟨config.selector, ""⟩ :=
    choose_selector_eq_ok_iff.mpr ⟨_, rfl, selectorMarker.1, rfl⟩
  have sentinel : choose ⟨config.selector, ""⟩ .sentinel (.text config.sentinel) = .ok config :=
    choose_sentinel_eq_ok_iff.mpr ⟨_, rfl, sentinelMarker, rfl⟩
  have first := assign_run .selector (.text config.selector) ⟨"", ""⟩
  have second := assign_run .sentinel (.text config.sentinel) ⟨config.selector, ""⟩
  rw [selector] at first
  rw [sentinel] at second
  have both : (do
      assign .selector (.text config.selector)
      assign .sentinel (.text config.sentinel)).run ⟨"", ""⟩ = .ok () config := by
    rw [EStateM.run_bind, first]
    exact second
  simp only [ofConfig, both]

/-- **Settings after assignments.**  A reader can be made from every configuration that was
read.  A refused assignment leaves both settings alone.  After any assignments the settings
are accepted as a configuration exactly if no blank stands in the text that was last made
the selector, and nothing else is ever found. -/
theorem after_isAccepted_iff {config : ReaderSettings}
    (valid : ∃ entries, read entries = .ok config)
    (assignments : List (ReaderSetting × Value)) :
    ofConfig config = .ok config ∧
      (∀ setting value fault left,
        (assign setting value).run (after config assignments) = .error fault left →
          left = after config assignments) ∧
      ((after config assignments).IsAccepted ↔
        ∀ content ∈ lastSelector? assignments, ∀ c ∈ content.toList, Text.isBlank c = false) ∧
      (¬ (after config assignments).IsAccepted →
        read (after config assignments).dump = .error [⟨["object_selector"], .blankInside⟩]) := by
  obtain ⟨entries, found⟩ := valid
  obtain ⟨selectorMarker, sentinelMarker⟩ := isMarker_of_read found
  have marker := sentinel_after sentinelMarker assignments
  have selector := selector_after config assignments
  have nonempty : (after config assignments).selector ≠ "" := by
    rw [selector]
    cases last : lastSelector? assignments with
    | none => exact selectorMarker.1
    | some content => exact lastSelector?_ne_empty last
  have solid_iff : (∀ c ∈ (after config assignments).selector.toList, Text.isBlank c = false) ↔
      ∀ content ∈ lastSelector? assignments, ∀ c ∈ content.toList, Text.isBlank c = false := by
    rw [selector]
    cases lastSelector? assignments with
    | none => simpa using selectorMarker.2
    | some content => simp
  have accepted_iff : (after config assignments).IsAccepted ↔
      ∀ c ∈ (after config assignments).selector.toList, Text.isBlank c = false := by
    rw [isAccepted_iff, and_iff_left marker, IsMarker, and_iff_right nonempty]
  refine ⟨ofConfig_eq (isAccepted_iff.mpr ⟨selectorMarker, sentinelMarker⟩), ?_, ?_, ?_⟩
  · intro setting value fault left refused
    rw [assign_run] at refused
    split at refused
    · cases refused
    · cases refused
      rfl
  · rw [accepted_iff, solid_iff]
  · rw [accepted_iff]
    exact read_dump_of_blank nonempty marker

/-- A selector with a space that is replaced again, and refused assignments in between. -/
theorem after_isAccepted_iff_wavering :
    let config : ReaderSettings := ⟨"@", "~"⟩
    let assignments : List (ReaderSetting × Value) :=
      [(.selector, .text "a b"), (.sentinel, .text "\t"), (.selector, .int 5),
        (.sentinel, .text "a b"), (.selector, .text "$"), (.selector, .text "")]
    read (.ofTexts [("object_selector", .text "@"), ("space_sentinel", .text "~")]) =
        .ok config ∧
      ofConfig config = .ok config ∧ lastSelector? assignments = some "$" ∧
      (after config assignments).IsAccepted ∧ ¬ (after config (assignments.take 4)).IsAccepted := by
  intro config assignments
  have valid :
      read (.ofTexts [("object_selector", .text "@"), ("space_sentinel", .text "~")]) =
        .ok config := rfl
  obtain ⟨made, -, accepted_iff, -⟩ := after_isAccepted_iff ⟨_, valid⟩ assignments
  obtain ⟨-, -, midway_iff, -⟩ := after_isAccepted_iff ⟨_, valid⟩ (assignments.take 4)
  have last : lastSelector? assignments = some "$" := rfl
  have lastMidway : lastSelector? (assignments.take 4) = some "a b" := rfl
  refine ⟨valid, made, last, ?_, ?_⟩
  · rw [accepted_iff, last]
    rintro _ ⟨⟩ c member
    obtain rfl : c = '$' := by simpa using member
    decide
  · rw [midway_iff, lastMidway]
    intro solid
    exact absurd (solid "a b" rfl ' ' (by decide)) (by decide)

/-- A selector with a space is assigned, and no configuration has it. -/
theorem spaced_selector_not_accepted :
    standard.IsAccepted ∧
      (assign .selector (.text "a b")).run standard = .ok () ⟨"a b", standard.sentinel⟩ ∧
      ¬ (after standard [(.selector, .text "a b")]).IsAccepted := by
  refine ⟨⟨standard, rfl⟩, rfl, ?_⟩
  rw [isAccepted_iff]
  rintro ⟨selector, -⟩
  exact absurd (selector.2 ' ' (by decide)) (by decide)

/-! ## Unescaping twice -/

/-- **Unescaping is final.**  Under every sentinel that was accepted, what was unescaped holds
no sentinel, so that unescaping it again changes nothing; and a text is its own unescaped
form exactly if it holds none. -/
theorem unescape_unescape {chosen settings : ReaderSettings} {value : Value}
    (accepted : chosen.setSentinel value = .ok settings) (text : List Char) :
    ¬ settings.sentinel.toList <:+: settings.unescape text ∧
      settings.unescape (settings.unescape text) = settings.unescape text ∧
      (settings.unescape text = text ↔ ¬ settings.sentinel.toList <:+: text) := by
  obtain ⟨content, rfl, -, rfl⟩ := choose_sentinel_eq_ok_iff.mp accepted
  obtain ⟨-, isWord⟩ := isWord_of_setSentinel accepted
  have absent : ¬ content.toList <:+: unescape { chosen with sentinel := content } text :=
    Text.not_infix_replaceAll isWord text
  refine ⟨absent, unescape_eq_self absent, fun same => ?_, unescape_eq_self⟩
  rwa [same] at absent

/-- Sentinels that overlap, touch, or would arise from what stands around a replaced one. -/
theorem unescape_unescape_overlaps :
    let settings : ReaderSettings := ⟨"#", "aba"⟩
    let text := "ababa abaaba aabaaba".toList
    standard.setSentinel (.text "aba") = .ok settings ∧
      ¬ "aba".toList <:+: settings.unescape text ∧
      settings.unescape (settings.unescape text) = settings.unescape text ∧
      settings.unescape text = " ba    a  ".toList := by
  intro settings text
  have accepted : standard.setSentinel (.text "aba") = .ok settings := rfl
  obtain ⟨absent, again, -⟩ := unescape_unescape accepted text
  exact ⟨accepted, absent, again, by decide +kernel⟩

end CommandHost.ReaderSettings
