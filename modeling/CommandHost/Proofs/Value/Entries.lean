import CommandHost.Value.Basic

/-!
# Mappings by what they hold

Mappings are lists of entries, and most of what is said about them is said about what a text
key holds: after an assignment, after an update, in the part of a mapping that passes a test.
Where entries are skipped or assigned one after another the keys have to be distinct, as they
are in every mapping that was built entry by entry.
-/

namespace CommandHost

/-! ## Keys -/

namespace Atom

theorem text_same_iff {content : String} {key : Atom} :
    (Atom.text content).same key = true ↔ key = .text content := by
  cases key with
  | text other => simpa using eq_comm
  | _ => simp [same, integer?]

theorem same_text_iff {key : Atom} {content : String} :
    key.same (.text content) = true ↔ key = .text content := by
  cases key <;> simp [same, integer?]

end Atom

namespace Entries

/-- The keys of a mapping. -/
def keys (entries : Entries) : List Atom := entries.map Prod.fst

/-- The values of a mapping. -/
def values (entries : Entries) : List Value := entries.map Prod.snd

/-- No two entries have the same key. -/
def Distinct (entries : Entries) : Prop :=
  entries.keys.Pairwise fun earlier later => later.same earlier = false

/-- A key that has an entry keeps its place; another one comes at the end. -/
theorem keys_assign (entries : Entries) (key : Atom) (value : Value) :
    (entries.assign key value).keys = entries.keys ∨
      (∀ old ∈ entries.keys, key.same old = false) ∧
        (entries.assign key value).keys = entries.keys ++ [key] := by
  induction entries with
  | nil => exact .inr ⟨by simp [keys], rfl⟩
  | cons entry rest inductionHypothesis =>
      obtain ⟨other, old⟩ := entry
      by_cases here : key.same other = true
      · exact .inl (by simp [assign, here, keys])
      · rw [assign, if_neg here]
        rcases inductionHypothesis with kept | ⟨absent, added⟩
        · exact .inl (congrArg (other :: ·) kept)
        · refine .inr ⟨fun name member => ?_, congrArg (other :: ·) added⟩
          rcases List.mem_cons.mp member with rfl | later
          · simpa using here
          · exact absent name later

theorem Distinct.assign {entries : Entries} (distinct : entries.Distinct) (key : Atom)
    (value : Value) : (entries.assign key value).Distinct := by
  rcases keys_assign entries key value with kept | ⟨absent, added⟩
  · rwa [Distinct, kept]
  · rw [Distinct, added]
    refine List.pairwise_append.mpr ⟨distinct, List.pairwise_singleton _ _, ?_⟩
    intro old member last lastMember
    rw [List.mem_singleton.mp lastMember]
    exact absent old member

theorem values_assign (entries : Entries) (key : Atom) (value : Value) :
    ∀ found ∈ (entries.assign key value).values, found = value ∨ found ∈ entries.values := by
  induction entries with
  | nil => simp [values]
  | cons entry rest inductionHypothesis =>
      obtain ⟨other, old⟩ := entry
      intro found member
      by_cases here : key.same other = true
      · simp only [assign, here, if_true, values, List.map_cons, List.mem_cons] at member ⊢
        exact member.imp_right .inr
      · rw [assign, if_neg here] at member
        rcases List.mem_cons.mp member with rfl | later
        · exact .inr List.mem_cons_self
        · exact (inductionHypothesis found later).imp_right (List.mem_cons_of_mem old)

theorem Distinct.update {entries : Entries} (distinct : entries.Distinct) (others : Entries) :
    (entries.update others).Distinct := by
  induction others generalizing entries with
  | nil => exact distinct
  | cons entry rest inductionHypothesis =>
      exact inductionHypothesis (distinct.assign entry.1 entry.2)

theorem distinct_ofPairs (pairs : List (Atom × Value)) : (ofPairs pairs).Distinct := by
  have empty : Distinct [] := List.Pairwise.nil
  exact empty.update pairs

theorem Distinct.filter {entries : Entries} (distinct : entries.Distinct)
    (test : Atom × Value → Bool) : Distinct (entries.filter test) :=
  List.Pairwise.sublist (List.filter_sublist.map Prod.fst) distinct

theorem values_ofPairs (pairs : List (Atom × Value)) :
    ∀ value ∈ (ofPairs pairs).values, value ∈ pairs.map Prod.snd := by
  have grows : ∀ (others : List (Atom × Value)) (entries : Entries),
      ∀ value ∈ (entries.update others).values,
        value ∈ others.map Prod.snd ∨ value ∈ entries.values := by
    intro others
    induction others with
    | nil => exact fun _ _ member => .inr member
    | cons entry rest inductionHypothesis =>
        intro entries value member
        rcases inductionHypothesis (entries.assign entry.1 entry.2) value member with
          later | earlier
        · exact .inl (List.mem_cons_of_mem _ later)
        · exact (values_assign entries entry.1 entry.2 value earlier).imp_left fun same =>
            by simp [same]
  intro value member
  simpa [values] using grows pairs [] value member

/-! ## Looking up a text key -/

theorem get?_cons (key : Atom) (value : Value) (rest : Entries) (name : String) :
    get? ((key, value) :: rest) name =
      if (Atom.text name).same key then some value else rest.get? name := rfl

theorem mem_values_of_get? {entries : Entries} {name : String} {value : Value}
    (found : entries.get? name = some value) : value ∈ entries.values := by
  induction entries with
  | nil => simp [get?] at found
  | cons entry rest inductionHypothesis =>
      obtain ⟨key, old⟩ := entry
      rw [get?_cons] at found
      split at found
      · obtain rfl : old = value := by simpa using found
        exact List.mem_cons_self
      · exact List.mem_cons_of_mem _ (inductionHypothesis found)

theorem get?_assign_of_ne (entries : Entries) {key : Atom} {name : String}
    (different : key ≠ .text name) (value : Value) :
    (entries.assign key value).get? name = entries.get? name := by
  induction entries with
  | nil =>
      have apart : ¬ (Atom.text name).same key = true := by rwa [Atom.text_same_iff]
      simp [get?, find?, apart]
  | cons entry rest inductionHypothesis =>
      obtain ⟨other, old⟩ := entry
      by_cases here : key.same other = true
      · have apart : ¬ (Atom.text name).same other = true := by
          rw [Atom.text_same_iff]
          rintro rfl
          exact different (Atom.same_text_iff.mp here)
        simp [assign, here, get?_cons, apart]
      · simp [assign, here, get?_cons, inductionHypothesis]

/-- What a text key holds after an assignment. -/
theorem get?_assign (entries : Entries) (key : Atom) (value : Value) (name : String) :
    (entries.assign key value).get? name =
      if (Atom.text name).same key then some value else entries.get? name := by
  by_cases here : (Atom.text name).same key = true
  · obtain rfl := Atom.text_same_iff.mp here
    simpa [set] using get?_set entries name name value
  · rw [if_neg here, get?_assign_of_ne entries (mt Atom.text_same_iff.mpr here)]

theorem get?_eq_none {entries : Entries} {name : String}
    (absent : ∀ key ∈ entries.keys, key.same (.text name) = false) :
    entries.get? name = none := by
  induction entries with
  | nil => rfl
  | cons entry rest inductionHypothesis =>
      obtain ⟨key, value⟩ := entry
      have restAbsent : ∀ other ∈ keys rest, other.same (.text name) = false :=
        fun other member => absent other (List.mem_cons_of_mem key member)
      have apart : ¬ (Atom.text name).same key = true := by
        rw [Atom.text_same_iff, ← Atom.same_text_iff]
        simp [absent key List.mem_cons_self]
      rw [get?_cons, if_neg apart, inductionHypothesis restAbsent]

/-- What a text key holds in the part of a mapping that passes a test. -/
theorem get?_filter {entries : Entries} (distinct : entries.Distinct)
    (test : Atom × Value → Bool) (name : String) :
    get? (entries.filter test) name =
      (entries.get? name).filter fun value => test (.text name, value) := by
  induction entries with
  | nil => rfl
  | cons entry rest inductionHypothesis =>
      obtain ⟨key, value⟩ := entry
      obtain ⟨absent, restDistinct⟩ := List.pairwise_cons.mp distinct
      have later := inductionHypothesis restDistinct
      rw [get?_cons]
      by_cases here : (Atom.text name).same key = true
      · obtain rfl := Atom.text_same_iff.mp here
        have notLater : get? rest name = none := get?_eq_none absent
        rw [notLater] at later
        cases passes : test (.text name, value) with
        | true => simp [passes, get?_cons, Option.filter]
        | false => simpa [passes, Option.filter] using later
      · rw [if_neg here, ← later]
        cases passes : test (key, value) with
        | true => simp [passes, get?_cons, here]
        | false => simp [passes]

theorem get?_drop {entries : Entries} (distinct : entries.Distinct) (key name : String) :
    (entries.drop key).get? name = if name = key then none else entries.get? name := by
  rw [drop, erase, get?_filter distinct]
  by_cases same : name = key
  · subst same
    cases entries.get? name <;> simp [Option.filter]
  · have apart : (key == name) = false := by simpa using Ne.symm same
    cases entries.get? name <;> simp [Option.filter, apart, same]

/-! ## Updating a mapping -/

theorem assign_eq_append {entries : Entries} {key : Atom}
    (absent : ∀ old ∈ entries.keys, key.same old = false) (value : Value) :
    entries.assign key value = entries ++ [(key, value)] := by
  induction entries with
  | nil => rfl
  | cons entry rest inductionHypothesis =>
      obtain ⟨other, old⟩ := entry
      have notHere : ¬ key.same other = true := by simp [absent other List.mem_cons_self]
      rw [assign, if_neg notHere,
        inductionHypothesis fun name member => absent name (List.mem_cons_of_mem other member)]
      rfl

/-- Entries with other keys come behind those that are there. -/
theorem update_eq_append {entries others : Entries}
    (distinct : (entries ++ others : Entries).Distinct) :
    entries.update others = entries ++ others := by
  induction others generalizing entries with
  | nil => exact (List.append_nil entries).symm
  | cons entry rest inductionHypothesis =>
      have absent : ∀ old ∈ entries.keys, entry.1.same old = false := by
        intro old member
        rw [Distinct, keys, List.map_append] at distinct
        exact (List.pairwise_append.mp distinct).2.2 old member entry.1 List.mem_cons_self
      have step : entries.update (entry :: rest) =
          update (entries.assign entry.1 entry.2) rest := rfl
      have joined : entries ++ entry :: rest = (entries ++ [entry]) ++ rest := by
        rw [List.append_assoc, List.singleton_append]
      rw [joined] at distinct ⊢
      rw [step, assign_eq_append absent]
      exact inductionHypothesis distinct

theorem update_empty {entries : Entries} (distinct : entries.Distinct) :
    update [] entries = entries :=
  update_eq_append distinct

/-- Entries whose keys are distinct texts. -/
theorem distinct_of_keys {entries : Entries} {names : List String}
    (same : entries.keys = names.map Atom.text) (nodup : names.Nodup) : entries.Distinct := by
  rw [Distinct, same, List.pairwise_map]
  refine nodup.imp fun different => ?_
  rw [Atom.same_text, beq_eq_false_iff_ne]
  exact different.symm

theorem get?_eq_none_of_keys {entries : Entries} {names : List String} {name : String}
    (same : entries.keys = names.map Atom.text) (absent : name ∉ names) :
    entries.get? name = none := by
  apply get?_eq_none
  rw [same]
  intro _ member
  obtain ⟨other, isKey, rfl⟩ := List.mem_map.mp member
  rw [Atom.same_text, beq_eq_false_iff_ne]
  rintro rfl
  exact absent isKey

theorem keys_ofTexts (pairs : List (String × Value)) :
    (ofTexts pairs).keys = (pairs.map Prod.fst).map Atom.text := by
  simp [keys, ofTexts]

theorem distinct_ofTexts {pairs : List (String × Value)}
    (nodup : (pairs.map Prod.fst).Nodup) : (ofTexts pairs).Distinct :=
  distinct_of_keys (keys_ofTexts pairs) nodup

/-- What a text key holds after an update. -/
theorem get?_update (entries : Entries) {others : Entries} (distinct : others.Distinct)
    (name : String) :
    (entries.update others).get? name = (others.get? name).or (entries.get? name) := by
  induction others generalizing entries with
  | nil => rfl
  | cons entry rest inductionHypothesis =>
      obtain ⟨key, value⟩ := entry
      obtain ⟨absent, restDistinct⟩ := List.pairwise_cons.mp distinct
      have step : entries.update ((key, value) :: rest) =
          update (entries.assign key value) rest := rfl
      rw [step, inductionHypothesis _ restDistinct, get?_cons, get?_assign]
      by_cases here : (Atom.text name).same key = true
      · obtain rfl := Atom.text_same_iff.mp here
        have notLater : get? rest name = none := get?_eq_none absent
        rw [notLater, if_pos here, if_pos here]
        rfl
      · rw [if_neg here, if_neg here]

theorem drop_cons (key : Atom) (value : Value) (rest : Entries) (name : String) :
    drop ((key, value) :: rest) name =
      if (Atom.text name).same key then rest.drop name else (key, value) :: rest.drop name := by
  by_cases here : (Atom.text name).same key = true <;> simp [drop, erase, here]

theorem drop_assign (entries : Entries) (key : Atom) (value : Value) (name : String) :
    (entries.assign key value).drop name =
      if (Atom.text name).same key then entries.drop name
      else (entries.drop name).assign key value := by
  induction entries with
  | nil =>
      rw [assign_nil, drop_cons]
      rfl
  | cons entry rest inductionHypothesis =>
      obtain ⟨other, old⟩ := entry
      by_cases found : key.same other = true
      · -- the key finds this entry, so either both are the name or neither is
        have sameKey : (Atom.text name).same key = true ↔
            (Atom.text name).same other = true := by
          rw [Atom.text_same_iff, Atom.text_same_iff]
          constructor
          · rintro rfl
            exact Atom.text_same_iff.mp found
          · rintro rfl
            exact Atom.same_text_iff.mp found
        rw [assign, if_pos found, drop_cons, drop_cons]
        by_cases here : (Atom.text name).same other = true
        · rw [if_pos here, if_pos (sameKey.mpr here), if_pos here]
        · rw [if_neg here, if_neg ((not_congr sameKey).mpr here), if_neg here, assign, if_pos found]
      · rw [assign, if_neg found, drop_cons, drop_cons, inductionHypothesis]
        by_cases here : (Atom.text name).same other = true
        · rw [if_pos here, if_pos here]
        · rw [if_neg here, if_neg here, assign, if_neg found]
          by_cases isKey : (Atom.text name).same key = true
          · rw [if_pos isKey, if_pos isKey]
          · rw [if_neg isKey, if_neg isKey]

/-- It makes no difference whether a text key is dropped before an update or after it. -/
theorem drop_update (entries others : Entries) (name : String) :
    (entries.update others).drop name = (entries.drop name).update (others.drop name) := by
  induction others generalizing entries with
  | nil => rfl
  | cons entry rest inductionHypothesis =>
      obtain ⟨key, value⟩ := entry
      have step (start : Entries) : start.update ((key, value) :: rest) =
          update (start.assign key value) rest := rfl
      rw [step, inductionHypothesis, drop_assign, drop_cons]
      by_cases here : (Atom.text name).same key = true
      · rw [if_pos here, if_pos here]
      · rw [if_neg here, if_neg here]
        rfl

theorem drop_eq_self {entries : Entries} {name : String}
    (absent : entries.get? name = none) : entries.drop name = entries := by
  induction entries with
  | nil => rfl
  | cons entry rest inductionHypothesis =>
      obtain ⟨key, value⟩ := entry
      rw [get?_cons] at absent
      by_cases here : (Atom.text name).same key = true
      · rw [if_pos here] at absent
        cases absent
      · rw [if_neg here] at absent
        rw [drop_cons, if_neg here, inductionHypothesis absent]

end Entries

end CommandHost
