import CommandHost.Command.Arguments
import CommandHost.Proofs.Result
import Mathlib.Data.Nat.Digits.Defs

/-!
# When an accessor gives a value

The accessors are meant to fall back to a default instead of failing.  There are two
places where they can fail all the same.  A value, or a key, that has to be written out may
hold an integer with too many digits or be nested too deep; and the digits that `getInt`
reads may be too many.  The main statement says for each accessor exactly when it gives a
value.

A search through keys is described without failures first: `Source.sought` is what the keys
lead to, and `Spells` tells the keys that have to be written out on the way.
-/

namespace CommandHost

/-! ## Values that can be written out -/

/-- The integer that an atom is, if it is one. -/
def Atom.numbers : Atom → List Int
  | .int number => [number]
  | _ => []

theorem Atom.obstacle?_eq_none_iff (content : Atom) :
    content.obstacle? = none ↔
      ∀ number ∈ content.numbers, number.natAbs < 10 ^ digitLimit := by
  cases content with
  | int number =>
      have fits :
          (Nat.toDigits 10 number.natAbs).length ≤ digitLimit ↔
            number.natAbs < 10 ^ digitLimit :=
        Nat.length_toDigits_le_iff (by decide) (by decide)
      simp [obstacle?, numbers, fits]
  | _ => simp [obstacle?, numbers]

namespace Value

mutual

/-- The integers in a value, those in keys included. -/
def numbers : Value → List Int
  | .atom content => content.numbers
  | .list items => itemsNumbers items
  | .map entries => entriesNumbers entries

/-- The integers in the items of a list. -/
def itemsNumbers : List Value → List Int
  | [] => []
  | item :: rest => numbers item ++ itemsNumbers rest

/-- The integers in the entries of a mapping. -/
def entriesNumbers : List (Atom × Value) → List Int
  | [] => []
  | (key, value) :: rest => key.numbers ++ (numbers value ++ entriesNumbers rest)

end

/-- A value that can be written out: it is not nested too deep, and no integer in it is too
long. -/
structure IsWritable (value : Value) : Prop where
  shallow : value.depth ≤ nestingLimit
  short : ∀ number ∈ value.numbers, number.natAbs < 10 ^ digitLimit

mutual

/-- Nothing keeps a value from being written out exactly if it is within the levels that are
left and its integers are short. -/
theorem obstacle?_eq_none_iff (levels : Nat) (value : Value) :
    obstacle? levels value = none ↔
      value.depth ≤ levels ∧ ∀ number ∈ value.numbers, number.natAbs < 10 ^ digitLimit := by
  cases levels with
  | zero => cases value <;> simp [obstacle?, depth]
  | succ levels =>
      cases value with
      | atom content => simp [obstacle?, depth, numbers, Atom.obstacle?_eq_none_iff]
      | list items =>
          simpa [obstacle?, depth, numbers] using itemsObstacle?_eq_none_iff levels items
      | map entries =>
          simpa [obstacle?, depth, numbers] using entriesObstacle?_eq_none_iff levels entries

theorem itemsObstacle?_eq_none_iff (levels : Nat) (items : List Value) :
    itemsObstacle? levels items = none ↔
      itemsDepth items ≤ levels ∧
        ∀ number ∈ itemsNumbers items, number.natAbs < 10 ^ digitLimit := by
  cases items with
  | nil => simp [itemsObstacle?, itemsDepth, itemsNumbers]
  | cons item rest =>
      have first := obstacle?_eq_none_iff levels item
      have others := itemsObstacle?_eq_none_iff levels rest
      simp only [itemsObstacle?, itemsDepth, itemsNumbers, Option.or_eq_none_iff, first, others,
        List.forall_mem_append, Nat.max_le]
      exact and_and_and_comm

theorem entriesObstacle?_eq_none_iff (levels : Nat) (entries : List (Atom × Value)) :
    entriesObstacle? levels entries = none ↔
      entriesDepth entries ≤ levels ∧
        ∀ number ∈ entriesNumbers entries, number.natAbs < 10 ^ digitLimit := by
  match entries with
  | [] => simp [entriesObstacle?, entriesDepth, entriesNumbers]
  | (key, value) :: rest =>
      have first := obstacle?_eq_none_iff levels value
      have others := entriesObstacle?_eq_none_iff levels rest
      simp only [entriesObstacle?, entriesDepth, entriesNumbers, Option.or_eq_none_iff,
        Atom.obstacle?_eq_none_iff, first, others, List.forall_mem_append, Nat.max_le]
      tauto

end

/-- A value can be written out exactly if it is writable, and then as it prints. -/
theorem toText_eq_ok_iff {value : Value} {text : String} :
    value.toText = .ok text ↔ value.IsWritable ∧ text = value.print := by
  have writable : value.obstacle? nestingLimit = none ↔ value.IsWritable := by
    rw [obstacle?_eq_none_iff]
    exact ⟨fun ⟨shallow, short⟩ => ⟨shallow, short⟩, fun ⟨shallow, short⟩ => ⟨shallow, short⟩⟩
  rw [toText, ← writable]
  cases obstacle? nestingLimit value <;> simp [eq_comm]

/-- A text can always be written out. -/
theorem isWritable_text (content : String) : (Value.text content).IsWritable where
  shallow := by simp [depth, nestingLimit]
  short := by simp [numbers, Atom.numbers]

theorem toText_text (content : String) : (Value.text content).toText = .ok content :=
  toText_eq_ok_iff.mpr ⟨isWritable_text content, rfl⟩

/-- An integer can be written out exactly if it is short. -/
theorem isWritable_int_iff (number : Int) :
    (Value.int number).IsWritable ↔ number.natAbs < 10 ^ digitLimit := by
  have levels : (Value.int number).depth ≤ nestingLimit := by simp [depth, nestingLimit]
  constructor
  · rintro ⟨-, short⟩
    exact short number (List.mem_singleton_self number)
  · intro fits
    refine ⟨levels, ?_⟩
    rintro other member
    obtain rfl := List.mem_singleton.mp member
    exact fits

theorem not_isWritable_pow {exponent : Nat} (long : digitLimit ≤ exponent) :
    ¬ (Value.int (10 ^ exponent)).IsWritable := by
  have ten : (10 : Int).natAbs = 10 := rfl
  rw [isWritable_int_iff, Int.natAbs_pow, ten, Nat.not_lt]
  exact Nat.pow_le_pow_right (by decide) long

end Value

/-! ## What keys lead to -/

namespace Arguments

/-- What a key leads to: the value kept under it, or else under its text. -/
def held (params : Entries) (key : Value) : Value :=
  (direct? params key).getD (params.getOrNull key.print)

/-- The first value other than null that one of the keys leads to. -/
def sought (params : Entries) (keys : List Value) : Option Value :=
  (keys.map (held params)).find? fun value => !value.isNull

/-- A search through keys gets to a key and has to write it out: the keys before it lead to
nothing, and the key itself is not there as it is. -/
def Spells (params : Entries) (keys : List Value) (key : Value) : Prop :=
  ∃ before after, keys = before ++ key :: after ∧
    (∀ earlier ∈ before, (held params earlier).isNull = true) ∧ direct? params key = none

theorem spells_cons_iff {params : Entries} {first : Value} {rest : List Value} {key : Value} :
    Spells params (first :: rest) key ↔
      (key = first ∧ direct? params first = none) ∨
        ((held params first).isNull = true ∧ Spells params rest key) := by
  constructor
  · rintro ⟨before, after, split, nothing, missing⟩
    cases before with
    | nil =>
        obtain ⟨rfl, rfl⟩ := List.cons.inj split
        exact .inl ⟨rfl, missing⟩
    | cons head before =>
        obtain ⟨rfl, tails⟩ := List.cons.inj split
        obtain ⟨headNothing, nothing⟩ := List.forall_mem_cons.mp nothing
        exact .inr ⟨headNothing, before, after, tails, nothing, missing⟩
  · rintro (⟨rfl, missing⟩ | ⟨headNothing, before, after, split, nothing, missing⟩)
    · exact ⟨[], rest, rfl, by simp, missing⟩
    · exact ⟨first :: before, after, by simp [split],
        List.forall_mem_cons.mpr ⟨headNothing, nothing⟩, missing⟩

theorem lookup_eq_ok_iff {params : Entries} {key value : Value} :
    lookup params key = .ok value ↔
      (direct? params key = none → key.IsWritable) ∧ value = held params key := by
  rw [lookup, held]
  cases direct? params key with
  | some kept => simp [eq_comm]
  | none =>
      simp only [map_eq_ok_iff, Value.toText_eq_ok_iff, Option.getD_none, forall_const]
      constructor
      · rintro ⟨_, ⟨writable, rfl⟩, rfl⟩
        exact ⟨writable, rfl⟩
      · rintro ⟨writable, rfl⟩
        exact ⟨_, ⟨writable, rfl⟩, rfl⟩

/-- A search gives a value exactly if every key that it has to write out can be, and what it
finds is what the keys lead to. -/
theorem firstOf_eq_ok_iff {params : Entries} {keys : List Value} {found : Option Value} :
    firstOf params keys = .ok found ↔
      (∀ key, Spells params keys key → key.IsWritable) ∧ found = sought params keys := by
  induction keys with
  | nil => simp [firstOf, sought, Spells, @eq_comm _ none]
  | cons first rest inductionHypothesis =>
      have spelled :
          (∀ key, Spells params (first :: rest) key → key.IsWritable) ↔
            (direct? params first = none → first.IsWritable) ∧
              ((held params first).isNull = true →
                ∀ key, Spells params rest key → key.IsWritable) := by
        simp only [spells_cons_iff, or_imp, and_imp, forall_and, forall_eq]
        tauto
      have further :
          firstOf params (first :: rest) = .ok found ↔
            (direct? params first = none → first.IsWritable) ∧
              (if (held params first).isNull then firstOf params rest
                else pure (some (held params first))) = .ok found := by
        simp only [firstOf, bind_eq_ok_iff, lookup_eq_ok_iff, and_assoc, exists_and_left,
          exists_eq_left]
      rw [further, spelled, sought, List.map_cons, List.find?_cons]
      by_cases nothing : (held params first).isNull = true
      · simp [nothing, inductionHypothesis, sought, and_assoc]
      · simp [nothing, eq_comm]

end Arguments

/-! ## Searching a source -/

namespace Source

/-- What keys lead to in the parameters of a source, if it has any. -/
def sought (source : Source) (keys : List Value) : Option Value :=
  Arguments.sought source.params keys

/-- What keys lead to, or else a default. -/
def soughtOr (source : Source) (keys : List Value) (default : Value) : Value :=
  (source.sought keys).getD default

/-- Keys can be searched in a source if each one that has to be written out can be.  Where
there are no parameters, none has to be. -/
def Searchable (source : Source) (keys : List Value) : Prop :=
  source.params ≠ [] →
    ∀ key, Arguments.Spells source.params keys key → key.IsWritable

/-- Keys that are texts can be searched in every source. -/
theorem searchable_of_texts (source : Source) {keys : List Value}
    (texts : ∀ key ∈ keys, ∃ content, key = .text content) : source.Searchable keys := by
  rintro - key ⟨before, after, rfl, -, -⟩
  obtain ⟨content, rfl⟩ := texts key (by simp)
  exact Value.isWritable_text content

end Source

namespace Arguments

variable {source : Source} {keys : List Value} {key default value : Value}

theorem sought_nil (keys : List Value) : sought [] keys = none := by
  have nothing : ∀ key : Value, (held [] key).isNull = true := by
    intro key
    cases key <;> rfl
  simp [sought, nothing]

theorem find?_eq_ok_iff {found : Option Value} :
    find? source keys = .ok found ↔
      source.Searchable keys ∧ found = source.sought keys := by
  rw [find?, Source.Searchable, Source.sought]
  cases source.params with
  | nil => simp [sought_nil, eq_comm]
  | cons entry rest => simp [firstOf_eq_ok_iff]

theorem succeeds_find?_iff : Succeeds (find? source keys) ↔ source.Searchable keys := by
  simp [Succeeds, find?_eq_ok_iff]

theorem getParam_eq_ok_iff :
    getParam source key default = .ok value ↔
      source.Searchable (keysOf key) ∧ value = source.soughtOr (keysOf key) default := by
  rw [getParam, bind_eq_ok_iff]
  simp only [find?_eq_ok_iff, and_assoc, exists_and_left, exists_eq_left, pure_eq_ok,
    Except.ok.injEq, Source.soughtOr, @eq_comm _ _ value]

theorem succeeds_getParam_iff :
    Succeeds (getParam source key default) ↔ source.Searchable (keysOf key) :=
  succeeds_bind_pure_iff.trans succeeds_find?_iff

theorem succeeds_hasParam_iff :
    Succeeds (hasParam source key) ↔ source.Searchable (keysOf key) := by
  rw [hasParam_eq_find?, ← succeeds_find?_iff]
  cases find? source (keysOf key) <;> simp [Succeeds, Except.map]

/-- Asking for a parameter by a text never fails. -/
theorem getParam_text (source : Source) (content : String) (default : Value) :
    getParam source (.text content) default =
      .ok (source.soughtOr [.text content] default) := by
  have searchable : source.Searchable [.text content] :=
    source.searchable_of_texts fun key member => ⟨content, List.mem_singleton.mp member⟩
  exact getParam_eq_ok_iff.mpr ⟨searchable, rfl⟩

/-- As a text, a parameter has to be written out if there is one. -/
theorem succeeds_getText_iff :
    Succeeds (getText source keys default) ↔
      source.Searchable keys ∧ ∀ value ∈ source.sought keys, value.IsWritable := by
  rw [getText, succeeds_bind_iff]
  simp only [find?_eq_ok_iff, and_assoc, exists_and_left, exists_eq_left]
  apply and_congr_right
  intro _
  cases source.sought keys with
  | none => simp
  | some value =>
      simp only [succeeds_bind_pure_iff, Option.mem_def, Option.some.injEq, forall_eq']
      simp [Succeeds, Value.toText_eq_ok_iff]

/-- As an integer, a parameter or its default has to be written out, and it must not begin
with too many digits. -/
theorem succeeds_getInt_iff :
    Succeeds (getInt source key default) ↔
      source.Searchable (keysOf key) ∧
        (source.soughtOr (keysOf key) default).IsWritable ∧
        ∀ leading ∈ leadingDigits? (source.soughtOr (keysOf key) default).print.toList,
          leading.2.length ≤ digitLimit := by
  rw [getInt, succeeds_bind_iff]
  simp only [getParam_eq_ok_iff, and_assoc, exists_and_left, exists_eq_left, succeeds_bind_iff,
    Value.toText_eq_ok_iff]
  apply and_congr_right
  intro _
  apply and_congr_right
  intro _
  cases leadingDigits? (source.soughtOr (keysOf key) default).print.toList with
  | none => simp
  | some leading =>
      obtain ⟨negative, digits⟩ := leading
      by_cases long : digitLimit < digits.length
      · simp [long]
      · simp [long, Nat.le_of_not_lt long]

/-- What each accessor needs to give a value. -/
theorem accessors_succeed_iff (source : Source) (key default : Value) (keys : List Value) :
    (Succeeds (getParam source key default) ↔ source.Searchable (keysOf key)) ∧
      (Succeeds (hasParam source key) ↔ source.Searchable (keysOf key)) ∧
      (Succeeds (getText source keys default) ↔
        source.Searchable keys ∧ ∀ value ∈ source.sought keys, value.IsWritable) ∧
      (Succeeds (getBool source key default) ↔ source.Searchable (keysOf key)) ∧
      (Succeeds (getInt source key default) ↔
        source.Searchable (keysOf key) ∧
          (source.soughtOr (keysOf key) default).IsWritable ∧
          ∀ leading ∈ leadingDigits? (source.soughtOr (keysOf key) default).print.toList,
            leading.2.length ≤ digitLimit) ∧
      (Succeeds (getJson source key default) ↔ source.Searchable (keysOf key)) :=
  ⟨succeeds_getParam_iff, succeeds_hasParam_iff, succeeds_getText_iff,
    succeeds_bind_pure_iff.trans succeeds_getParam_iff, succeeds_getInt_iff,
    succeeds_bind_pure_iff.trans succeeds_getParam_iff⟩

/-! ## A text of digits -/

/-- A text of more digits than are read. -/
def longRun : String := String.ofList (List.replicate (digitLimit + 1) '1')

/-- A run of digits is all of what it begins with. -/
theorem leadingDigits?_replicate (count : Nat) :
    leadingDigits? (List.replicate (count + 1) '1') =
      some (false, List.replicate (count + 1) '1') := by
  have solid : Text.isBlank '1' = false := by decide
  have digit : Text.isDigit '1' = true := by decide
  simp [leadingDigits?, List.replicate_succ, solid, digit]

/-- The text of digits is refused, although a default was given. -/
theorem getInt_longRun :
    getInt (.mapping (.ofTexts [("v", .text longRun)])) (.text "v") (.int 0) =
      .error (.longNumber (digitLimit + 1)) := by
  have found :
      getParam (.mapping (.ofTexts [("v", .text longRun)])) (.text "v") (.int 0) =
        .ok (.text longRun) :=
    getParam_text _ "v" (.int 0)
  have written : (Value.text longRun).toText = .ok longRun :=
    Value.toText_eq_ok_iff.mpr ⟨Value.isWritable_text longRun, rfl⟩
  have leading :
      leadingDigits? longRun.toList = some (false, List.replicate (digitLimit + 1) '1') := by
    rw [longRun, String.toList_ofList, leadingDigits?_replicate]
  rw [getInt, found, ok_bind, written, ok_bind, leading]
  simp only [List.length_replicate, Nat.lt_succ_self, if_true, throw_eq_error, error_bind]

end Arguments

end CommandHost
