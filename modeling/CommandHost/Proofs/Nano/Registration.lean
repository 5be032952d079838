import CommandHost.Nano.Verbs
import Mathlib.Data.List.Induction

/-!
# Registering a command under several verbs

The verbs are looked up and added one after the other.  If all of them are free and no two
are the same, all of them are added.  Otherwise the first clash ends the registration, and
the verbs in front of it have been added: a rejected registration leaves the registry alone
only where the very first verb is taken.
-/

namespace CommandHost.Verbs

variable {ν : Type} {verbs : Verbs ν} {command : NanoCommand ν}

/-- Verbs that can be added one after the other. -/
structure Free (verbs : Verbs ν) (names : List String) : Prop where
  distinct : names.Nodup
  absent : ∀ name ∈ names, name ∉ verbs.keys

/-- The entries that a command gets under some verbs. -/
def entriesFor (command : NanoCommand ν) (names : List String) : Verbs ν :=
  names.map fun name => (name, command)

theorem keys_append_entriesFor (names : List String) :
    Table.keys (verbs ++ entriesFor command names) = verbs.keys ++ names := by
  have own : (entriesFor command names).map Prod.fst = names := by
    rw [entriesFor, List.map_map]
    exact List.map_id' names
  rw [Table.keys, List.map_append, own, Table.keys]

theorem get?_entriesFor (names : List String) (verb : String) :
    (entriesFor command names).get? verb = if verb ∈ names then some command else none := by
  induction names with
  | nil => rfl
  | cons name rest inductionHypothesis =>
      by_cases same : name = verb
      · simp [entriesFor, Table.get?, same]
      · simpa [entriesFor, Table.get?, same, Ne.symm same] using inductionHypothesis

/-- Free verbs get the command, and the other verbs keep theirs. -/
theorem get?_append_entriesFor {names : List String} (free : Free verbs names)
    (verb : String) :
    Table.get? (verbs ++ entriesFor command names) verb =
      if verb ∈ names then some command else verbs.get? verb := by
  rw [Table.get?_append, get?_entriesFor]
  by_cases listed : verb ∈ names
  · have absent : verbs.get? verb = none := by
      rw [← Option.not_isSome_iff_eq_none]
      exact fun present => free.absent verb listed ((Table.has_iff_mem_keys verbs verb).mp present)
    simp [listed, absent]
  · simp [listed]

/-- Verbs that are free are added in front of the verbs that are still to come. -/
theorem register_append {before : List String} (free : Free verbs before)
    (after : List String) :
    verbs.register command (before ++ after) =
      register (verbs ++ entriesFor command before) command after := by
  induction before generalizing verbs with
  | nil => simp [entriesFor]
  | cons verb rest inductionHypothesis =>
      have absent : verbs.has verb = false := by
        rw [← Bool.not_eq_true, Table.has_iff_mem_keys]
        exact free.absent verb List.mem_cons_self
      obtain ⟨notLater, distinct⟩ := List.nodup_cons.mp free.distinct
      have restFree : Free (verbs.put verb command) rest := by
        refine ⟨distinct, fun name member => ?_⟩
        rw [Table.put_eq_append absent]
        simp only [Table.keys, List.map_append, List.mem_append, not_or]
        refine ⟨free.absent name (List.mem_cons_of_mem verb member), ?_⟩
        rintro isVerb
        obtain rfl : name = verb := by simpa using isVerb
        exact notLater member
      rw [List.cons_append, register, if_neg (by simp [absent]), inductionHypothesis restFree,
        Table.put_eq_append absent, List.append_assoc]
      rfl

theorem register_of_free {names : List String} (free : Free verbs names) :
    verbs.register command names = (verbs ++ entriesFor command names, none) := by
  simpa using register_append free []

/-- The first clash, with the registry or with a verb in front, ends the registration. -/
theorem register_of_clash {before : List String} (free : Free verbs before) {verb : String}
    (clash : verb ∈ verbs.keys ∨ verb ∈ before) (after : List String) :
    verbs.register command (before ++ verb :: after) =
      (verbs ++ entriesFor command before, some verb) := by
  rw [register_append free]
  refine register_taken ?_ command after
  rw [Table.has_iff_mem_keys, keys_append_entriesFor]
  exact List.mem_append.mpr clash

theorem free_or_clash (verbs : Verbs ν) (names : List String) :
    Free verbs names ∨ ∃ before verb after, names = before ++ verb :: after ∧
      Free verbs before ∧ (verb ∈ verbs.keys ∨ verb ∈ before) := by
  -- From the end, since a verb clashes with those in front of it.
  induction names using List.reverseRecOn with
  | nil => exact .inl ⟨List.nodup_nil, by simp⟩
  | append_singleton names name inductionHypothesis =>
      rcases inductionHypothesis with free | ⟨before, verb, after, rfl, free, clash⟩
      · by_cases clash : name ∈ verbs.keys ∨ name ∈ names
        · exact .inr ⟨names, name, [], rfl, free, clash⟩
        · obtain ⟨absent, different⟩ := not_or.mp clash
          refine .inl ⟨?_, fun other member => ?_⟩
          · refine List.nodup_append.mpr ⟨free.distinct, by simp, ?_⟩
            rintro other member last isLast rfl
            exact different (List.mem_singleton.mp isLast ▸ member)
          · rcases List.mem_append.mp member with before | last
            · exact free.absent other before
            · exact List.mem_singleton.mp last ▸ absent
      · exact .inr ⟨before, verb, after ++ [name], by simp, free, clash⟩

/-- All the verbs get the command and nothing else changes, or the registration is rejected
and nothing at all changes. -/
def RegistersWhole (verbs : Verbs ν) (command : NanoCommand ν) (names : List String) : Prop :=
  match verbs.register command names with
  | (later, none) =>
    ∀ verb, later.get? verb = if verb ∈ names then some command else verbs.get? verb
  | (later, some _) => later = verbs

/-- A registration is all or nothing exactly if no verb clashes or the very first one is
taken.  Otherwise the verbs in front of the first clash stay. -/
theorem registersWhole_iff (verbs : Verbs ν) (command : NanoCommand ν) (names : List String) :
    (RegistersWhole verbs command names ↔
      Free verbs names ∨ ∃ first rest, names = first :: rest ∧ first ∈ verbs.keys) ∧
    ∀ before verb after, names = before ++ verb :: after → Free verbs before →
      verb ∈ verbs.keys ∨ verb ∈ before →
        verbs.register command names = (verbs ++ entriesFor command before, some verb) := by
  refine ⟨?_, ?_⟩
  · rcases free_or_clash verbs names with free | ⟨before, verb, after, rfl, free, clash⟩
    · rw [RegistersWhole, register_of_free free]
      exact iff_of_true (get?_append_entriesFor free) (.inl free)
    · rw [RegistersWhole, register_of_clash free clash]
      cases before with
      | nil =>
          have taken : verb ∈ verbs.keys := by simpa using clash
          exact iff_of_true (List.append_nil verbs) (.inr ⟨verb, after, rfl, taken⟩)
      | cons first rest =>
          refine iff_of_false (by simp [entriesFor]) (not_or.mpr ⟨fun all => ?_, ?_⟩)
          · rcases clash with taken | again
            · exact all.absent verb (by simp) taken
            · exact (List.nodup_append.mp all.distinct).2.2 verb again verb
                List.mem_cons_self rfl
          · rintro ⟨head, tail, names_eq, taken⟩
            obtain ⟨rfl, -⟩ := List.cons.inj names_eq
            exact free.absent first List.mem_cons_self taken
  · rintro before verb after rfl free clash
    exact register_of_clash free clash after

/-- The alias in front of a verb that is taken stays. -/
theorem not_registersWhole_alias :
    ¬ RegistersWhole builtin (.custom "told") ["fresh", "info"] := by
  intro whole
  have longer := congrArg List.length (whole : _ = builtin)
  revert longer
  decide

end CommandHost.Verbs
