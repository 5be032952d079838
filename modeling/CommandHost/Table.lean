/-!
# Tables

A table keeps values under texts, in the order in which the keys came. A key that
gets a new value keeps its place; a key that was erased and comes back stands at
the end.
-/

namespace CommandHost

/-- Values under texts, in the order in which the keys came. -/
abbrev Table (α : Type) := List (String × α)

namespace Table

variable {α : Type}

/-- The value kept under a key. -/
def get? (table : Table α) (key : String) : Option α :=
  match table with
  | [] => none
  | (other, value) :: rest => if other = key then some value else get? rest key

/-- Whether a key has a value. -/
def has (table : Table α) (key : String) : Bool := (table.get? key).isSome

/-- Keeps a value under a key. A key that has one keeps its place. -/
def put (table : Table α) (key : String) (value : α) : Table α :=
  match table with
  | [] => [(key, value)]
  | (other, old) :: rest =>
    if other = key then (key, value) :: rest else (other, old) :: put rest key value

/-- The table without a key. -/
def erase (table : Table α) (key : String) : Table α :=
  table.filter fun entry => entry.1 ≠ key

/-- The keys in order. -/
def keys (table : Table α) : List String := table.map Prod.fst

/-- The values in order. -/
def values (table : Table α) : List α := table.map Prod.snd

/-- Keeps all values of a second table, in its order. -/
def putAll (table others : Table α) : Table α :=
  others.foldl (fun sofar entry => put sofar entry.1 entry.2) table

/-! ## One equation for each pair of operations -/

@[simp] theorem get?_nil (key : String) : get? ([] : Table α) key = none := rfl

@[simp] theorem erase_nil (key : String) : erase ([] : Table α) key = [] := rfl

theorem get?_put (table : Table α) (key other : String) (value : α) :
    (table.put key value).get? other = if other = key then some value else table.get? other := by
  induction table with
  | nil =>
    by_cases equality : key = other
    · simp [put, get?, equality]
    · simp [put, get?, equality, Ne.symm equality]
  | cons entry rest inductionHypothesis =>
    obtain ⟨first, old⟩ := entry
    by_cases same : first = key
    · subst same
      by_cases equality : first = other
      · simp [put, get?, equality]
      · simp [put, get?, equality, Ne.symm equality]
    · by_cases equality : first = other
      · subst equality
        simp [put, get?, same]
      · simp [put, get?, same, equality, inductionHypothesis]

theorem get?_erase (table : Table α) (key other : String) :
    (table.erase key).get? other = if other = key then none else table.get? other := by
  unfold erase
  induction table with
  | nil => simp
  | cons entry rest inductionHypothesis =>
    obtain ⟨first, old⟩ := entry
    by_cases same : first = key
    · subst same
      by_cases equality : first = other
      · subst equality
        simpa using inductionHypothesis
      · simpa [get?, equality, Ne.symm equality] using inductionHypothesis
    · by_cases equality : first = other
      · subst equality
        simp [get?, same]
      · simp only [ne_eq, same, not_false_eq_true, decide_true, List.filter_cons_of_pos, get?,
          equality, if_false]
        exact inductionHypothesis

/-- A key stands in a table exactly if it has a value. -/
theorem has_iff_mem_keys (table : Table α) (key : String) :
    table.has key = true ↔ key ∈ table.keys := by
  induction table with
  | nil => simp [has, keys]
  | cons entry rest inductionHypothesis =>
    obtain ⟨first, value⟩ := entry
    by_cases same : first = key
    · simp [has, get?, keys, same]
    · have step : (key ∈ keys ((first, value) :: rest)) ↔ key ∈ keys rest := by
        simp [keys, Ne.symm same]
      rw [step, ← inductionHypothesis]
      simp [has, get?, same]

/-- Erasing a key that is not there changes nothing. -/
theorem erase_eq_self {table : Table α} {key : String} (absent : table.has key = false) :
    table.erase key = table := by
  unfold erase
  refine List.filter_eq_self.2 fun entry member => ?_
  have missing : ¬ key ∈ table.keys := by
    rw [← has_iff_mem_keys]
    simp [absent]
  have different : entry.1 ≠ key := by
    rintro rfl
    exact missing (List.mem_map_of_mem member)
  simpa using different

/-- A new key comes at the end. -/
theorem put_eq_append {table : Table α} {key : String} (absent : table.has key = false)
    (value : α) : table.put key value = table ++ [(key, value)] := by
  induction table with
  | nil => rfl
  | cons entry rest inductionHypothesis =>
    obtain ⟨first, old⟩ := entry
    by_cases same : first = key
    · simp [has, get?, same] at absent
    · have restAbsent : has rest key = false := by simpa [has, get?, same] using absent
      simp [put, same, inductionHypothesis restAbsent]

/-- A key that has a value keeps its place when it gets another one. -/
theorem keys_put_of_has {table : Table α} {key : String} (present : table.has key = true)
    (value : α) : (table.put key value).keys = table.keys := by
  induction table with
  | nil => simp [has] at present
  | cons entry rest inductionHypothesis =>
      obtain ⟨first, old⟩ := entry
      by_cases same : first = key
      · simp [put, keys, same]
      · have restPresent : has rest key = true := by
          simpa [has, get?, same] using present
        have restKeys : (put rest key value).map Prod.fst = rest.map Prod.fst :=
          inductionHypothesis restPresent
        simp [put, keys, same, restKeys]

/-- Keeping a value never doubles a key. -/
theorem nodup_keys_put {table : Table α} (distinct : table.keys.Nodup) (key : String)
    (value : α) : (table.put key value).keys.Nodup := by
  by_cases present : table.has key = true
  · rwa [keys_put_of_has present]
  · have absent : table.has key = false := by simpa using present
    have missing : key ∉ table.keys := fun member =>
      present ((has_iff_mem_keys table key).mpr member)
    rw [put_eq_append absent]
    simp only [keys, List.map_append, List.map_cons, List.map_nil] at distinct missing ⊢
    refine List.nodup_append.mpr ⟨distinct, by simp, ?_⟩
    intro other member last lastMember
    rw [List.mem_singleton.mp lastMember]
    rintro rfl
    exact missing member

/-- Of two tables in a row the first one that has a key says what it means. -/
theorem get?_append (front back : Table α) (key : String) :
    get? (front ++ back) key = (front.get? key).or (back.get? key) := by
  induction front with
  | nil => rfl
  | cons entry rest inductionHypothesis =>
      by_cases same : entry.1 = key
      · simp [get?, same]
      · simpa [get?, same] using inductionHypothesis

/-- Of several values that are kept under a key the last one counts. -/
theorem get?_putAll (table others : Table α) (key : String) :
    (table.putAll others).get? key = (get? others.reverse key).or (table.get? key) := by
  induction others generalizing table with
  | nil => rfl
  | cons entry rest inductionHypothesis =>
      rw [List.reverse_cons, get?_append, Option.or_assoc]
      refine (inductionHypothesis (table.put entry.1 entry.2)).trans ?_
      rw [get?_put]
      by_cases same : entry.1 = key
      · simp [get?, same]
      · simp [get?, same, Ne.symm same]

theorem nodup_keys_putAll {table : Table α} (distinct : table.keys.Nodup) (others : Table α) :
    (table.putAll others).keys.Nodup := by
  induction others generalizing table with
  | nil => exact distinct
  | cons entry rest inductionHypothesis =>
      exact inductionHypothesis (nodup_keys_put distinct entry.1 entry.2)

/-- Erasing never doubles a key. -/
theorem nodup_keys_erase {table : Table α} (distinct : table.keys.Nodup) (key : String) :
    (table.erase key).keys.Nodup :=
  distinct.sublist (List.filter_sublist.map Prod.fst)

theorem mem_of_get? {table : Table α} {key : String} {value : α}
    (found : table.get? key = some value) : (key, value) ∈ table := by
  induction table with
  | nil => simp at found
  | cons entry rest inductionHypothesis =>
      by_cases same : entry.1 = key
      · obtain rfl : entry.2 = value := by simpa [get?, same] using found
        exact same ▸ List.mem_cons_self
      · have later : get? rest key = some value := by simpa [get?, same] using found
        exact List.mem_cons_of_mem entry (inductionHypothesis later)

/-- In a table with distinct keys an entry is what its key holds. -/
theorem mem_iff_get? {table : Table α} (distinct : table.keys.Nodup) {key : String}
    {value : α} : (key, value) ∈ table ↔ table.get? key = some value := by
  induction table with
  | nil => simp
  | cons entry rest inductionHypothesis =>
      obtain ⟨first, old⟩ := entry
      obtain ⟨notLater, restDistinct⟩ := List.nodup_cons.mp distinct
      by_cases same : first = key
      · subst same
        have notRest : (first, value) ∉ rest := fun member =>
          notLater (List.mem_map.mpr ⟨(first, value), member, rfl⟩)
        simp [get?, notRest, eq_comm]
      · simp [get?, same, Ne.symm same, inductionHypothesis restDistinct]

section Keeping

variable {β : Type} {change : String × α → Option (String × β)}

/-- Entries that keep their keys, or go, keep the order of the keys. -/
theorem keys_filterMap_sublist
    (sameKey : ∀ {entry changed}, change entry = some changed → changed.1 = entry.1)
    (table : Table α) : (keys (table.filterMap change)).Sublist table.keys := by
  induction table with
  | nil => exact List.Sublist.slnil
  | cons entry rest inductionHypothesis =>
      cases isLeft : change entry with
      | none =>
          rw [List.filterMap_cons_none isLeft]
          exact inductionHypothesis.cons entry.1
      | some left =>
          rw [List.filterMap_cons_some isLeft]
          have head_eq := sameKey isLeft
          simp only [keys, List.map_cons, head_eq] at inductionHypothesis ⊢
          exact inductionHypothesis.cons_cons entry.1

theorem get?_filterMap
    (sameKey : ∀ {entry changed}, change entry = some changed → changed.1 = entry.1)
    {table : Table α} (distinct : table.keys.Nodup) (key : String) :
    get? (table.filterMap change) key =
      (table.get? key).bind fun value => (change (key, value)).map Prod.snd := by
  induction table with
  | nil => rfl
  | cons entry rest inductionHypothesis =>
      obtain ⟨name, value⟩ := entry
      obtain ⟨notLater, restDistinct⟩ := List.nodup_cons.mp distinct
      have later := inductionHypothesis restDistinct
      by_cases same : name = key
      · subst same
        cases isLeft : change (name, value) with
        | none =>
            have absent : get? (rest.filterMap change) name = none := by
              rw [← Option.not_isSome_iff_eq_none]
              intro present
              have member := (has_iff_mem_keys _ name).mp present
              exact notLater ((keys_filterMap_sublist sameKey rest).subset member)
            simp [List.filterMap_cons_none isLeft, get?, isLeft, absent]
        | some left =>
            have left_eq := sameKey isLeft
            simp [List.filterMap_cons_some isLeft, get?, isLeft, left_eq]
      · cases isLeft : change (name, value) with
        | none => simp [List.filterMap_cons_none isLeft, get?, same, later]
        | some left =>
            have left_eq := sameKey isLeft
            simp [List.filterMap_cons_some isLeft, get?, same, later, left_eq]

end Keeping

end Table

end CommandHost
