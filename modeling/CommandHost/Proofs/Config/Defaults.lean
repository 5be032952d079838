import CommandHost.Proofs.Config.Layering

/-!
# Defaults that are written out

What a mapping lacks has its default value.  So it makes no difference whether a mapping
is read as it is, or is first laid over the defaults written out as a mapping: with
either of them the same configuration is read, or the same problems are found in the
same order.  For an environment these are the two ways to a configuration without a
file.
-/

namespace CommandHost

namespace ConfigSupport

variable {support : ConfigSupport}

/-- Laying an environment over the defaults changes nothing about what is read from it. -/
theorem Lawful.validate_merged_nil (lawful : support.Lawful) (environment : Environment) :
    support.validate (support.merged [] environment) =
      support.validate environment.toEntries := by
  have distinct : Entries.Distinct [] := List.Pairwise.nil
  have sectioned : Entries.Sectioned [] := fun _ _ => rfl
  have reads := lawful.readsAs_merged distinct sectioned (fun _ => distinct) environment
  refine lawful.validate_congr reads.sectioned environment.sectioned_toEntries fun field => ?_
  calc field.outcome support (field.given? (support.merged [] environment))
      = field.outcome support (some (field.raw support [] environment)) :=
        reads.outcome_eq field
    _ = field.outcome support ((field.fromEnvironment? environment).or (field.given? [])) :=
        field.outcome_raw lawful.toReadsValues [] environment
    _ = field.outcome support (field.fromEnvironment? environment) :=
        congrArg (field.outcome support) (Option.or_none ..)
    _ = field.outcome support (field.given? environment.toEntries) := by
        rw [← environment.get?_sectionAt_toEntries, ConfigField.given?]

/-- **Two ways to a configuration.**  Reading an environment alone and loading it without a
file have the same outcome: equal configurations, or the same report with the same
problems. -/
theorem load_without_file (lawful : support.Lawful) (environment : Environment) :
    (support.load none environment).outcome = support.ofEnvironment environment ∧
      (support.load none environment).logs = [] ∧
      ∀ fault, support.ofEnvironment environment = .error fault →
        ∃ problems, fault = .invalid problems ∧
          fault.report? =
            .ok (.configuration
              ("Invalid configuration: " ++ intText problems.length ++ " error(s)")
              (.ofTexts [("errors", .list (problems.map Problem.toValue))])) := by
  have sameOutcome : (support.load none environment).outcome =
      support.ofEnvironment environment := by
    rw [load, layered, ofEnvironment, accept, accept, lawful.validate_merged_nil]
  refine ⟨sameOutcome, rfl, fun fault refused => ?_⟩
  obtain ⟨problems, -, rfl⟩ := accept_eq_error refused
  exact ⟨problems, rfl, rfl⟩

/-- An environment with a level that is not one and a selector with a blank in it. -/
def gruffEnvironment : Environment :=
  [("XPELL_LOG_LEVEL", "loud"), ("XPELL_OBJECT_SELECTOR", "a b"), ("XPELL_LOG_EVENTS", "Yes")]

theorem load_without_file_gruff :
    (standard.load none gruffEnvironment).outcome = standard.ofEnvironment gruffEnvironment ∧
      (standard.load none gruffEnvironment).outcome =
        .error (.invalid
          [⟨["logging", "level"], .notLevel⟩, ⟨["parser", "object_selector"], .blankInside⟩]) := by
  obtain ⟨same, -, -⟩ := load_without_file standard_lawful gruffEnvironment
  have found : RuntimeConfig.read gruffEnvironment.toEntries =
      .error [⟨["logging", "level"], .notLevel⟩,
        ⟨["parser", "object_selector"], .blankInside⟩] := by
    decide +kernel
  refine ⟨same, ?_⟩
  rw [same]
  exact congrArg (Except.mapError ConfigFault.invalid) found

end ConfigSupport

end CommandHost
