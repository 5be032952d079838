import CommandHost.Decimal.Shortest

/-!
# Values

The values that parameters, payloads, descriptors and stores hold. An `Atom` can
be the key of a mapping, lists and mappings cannot. Numbers compare by their
mathematical value, whatever their kind: one, one point zero and true are the
same key. The entries of a mapping stand in the order of their first assignment.
-/

namespace CommandHost

/-- A runtime object as a value: the place it has in the world, which identifies
it, and the text it prints as, which never changes. -/
structure ObjectHandle where
  index : Nat
  label : String

/-- The values that may be keys of a mapping. -/
inductive Atom where
  | null
  | bool (flag : Bool)
  | int (number : Int)
  | float (number : Float)
  | text (content : String)
  | moment (label : String)
  | object (handle : ObjectHandle)

/-- The values of the program. -/
inductive Value where
  | atom (content : Atom)
  | list (items : List Value)
  | map (entries : List (Atom × Value))

instance : Inhabited Atom := ⟨.null⟩

instance : Inhabited Value := ⟨.atom .null⟩

/-- The entries of a mapping, in the order of their first assignment. -/
abbrev Entries := List (Atom × Value)

namespace Value

@[match_pattern] abbrev null : Value := .atom .null

@[match_pattern] abbrev bool (flag : Bool) : Value := .atom (.bool flag)

@[match_pattern] abbrev int (number : Int) : Value := .atom (.int number)

@[match_pattern] abbrev float (number : Float) : Value := .atom (.float number)

@[match_pattern] abbrev text (content : String) : Value := .atom (.text content)

@[match_pattern] abbrev object (handle : ObjectHandle) : Value := .atom (.object handle)

/-- A text, or null where there is none. -/
def optionalText : Option String → Value
  | none => null
  | some content => text content

/-- Whether the value is null. -/
def isNull : Value → Bool
  | .null => true
  | _ => false

/-- Whether the value counts as true: null, false, zero, the empty text, the empty
list and the empty mapping do not, all other values do. -/
def truthy : Value → Bool
  | .null => false
  | .bool flag => flag
  | .int number => number != 0
  | .float number => number != 0.0
  | .text content => content != ""
  | .atom (.moment _) => true
  | .object _ => true
  | .list items => !items.isEmpty
  | .map entries => !entries.isEmpty

mutual

/-- How deep lists and mappings are nested in a value. -/
def depth : Value → Nat
  | .atom _ => 1
  | .list items => itemsDepth items + 1
  | .map entries => entriesDepth entries + 1

/-- How deep the items of a list are nested. -/
def itemsDepth : List Value → Nat
  | [] => 0
  | item :: rest => max (depth item) (itemsDepth rest)

/-- How deep the values of a mapping are nested. -/
def entriesDepth : List (Atom × Value) → Nat
  | [] => 0
  | (_, value) :: rest => max (depth value) (entriesDepth rest)

end

/-- The value itself if it counts as true, and otherwise another one. -/
def orElse (value other : Value) : Value := if value.truthy then value else other

end Value

namespace Atom

/-- The integer an atom is equal to, if it is a number equal to an integer. -/
def integer? : Atom → Option Int
  | .bool flag => some (if flag then 1 else 0)
  | .int number => some number
  | .float number => Decimal.integer? number
  | _ => none

/-- Whether two atoms are the same key. -/
def same : Atom → Atom → Bool
  | .null, .null => true
  | .text a, .text b => a == b
  | .moment a, .moment b => a == b
  | .object a, .object b => a.index == b.index
  | .float a, .float b => a == b
  | a, b =>
    match a.integer?, b.integer? with
    | some m, some n => m == n
    | _, _ => false

@[simp] theorem same_text (a b : String) : same (.text a) (.text b) = (a == b) := rfl

@[simp] theorem same_int (m n : Int) : same (.int m) (.int n) = (m == n) := rfl

end Atom

namespace Entries

/-- The value kept under a key. -/
def find? (entries : Entries) (key : Atom) : Option Value :=
  match entries with
  | [] => none
  | (other, value) :: rest => if key.same other then some value else find? rest key

/-- Whether a key holds a value, null included. -/
def has (entries : Entries) (key : Atom) : Bool := (entries.find? key).isSome

/-- The value kept under a text key. -/
def get? (entries : Entries) (key : String) : Option Value := entries.find? (.text key)

/-- The value kept under a text key, or null. -/
def getOrNull (entries : Entries) (key : String) : Value := (entries.get? key).getD .null

/-- Assigns a value to a key. A key that was assigned before keeps its place. -/
def assign (entries : Entries) (key : Atom) (value : Value) : Entries :=
  match entries with
  | [] => [(key, value)]
  | (other, old) :: rest =>
    if key.same other then (other, value) :: rest else (other, old) :: assign rest key value

/-- Assigns a value to a text key. -/
def set (entries : Entries) (key : String) (value : Value) : Entries :=
  entries.assign (.text key) value

/-- Assigns all entries of a second mapping, in its order. -/
def update (entries others : Entries) : Entries :=
  others.foldl (fun sofar entry => assign sofar entry.1 entry.2) entries

/-- The entries without the one of a key. -/
def erase (entries : Entries) (key : Atom) : Entries :=
  entries.filter fun entry => !key.same entry.1

/-- The entries without the one of a text key. -/
def drop (entries : Entries) (key : String) : Entries := entries.erase (.text key)

/-- The entries assigned one after another to an empty mapping. -/
def ofPairs (pairs : List (Atom × Value)) : Entries := update [] pairs

/-- Entries with text keys. -/
def ofTexts (pairs : List (String × Value)) : Entries :=
  pairs.map fun pair => (.text pair.1, pair.2)

/-! ## One equation for each operation -/

@[simp] theorem find?_nil (key : Atom) : find? [] key = none := rfl

@[simp] theorem assign_nil (key : Atom) (value : Value) :
    assign [] key value = [(key, value)] := rfl

@[simp] theorem update_nil (entries : Entries) : update entries [] = entries := rfl

/-- A text key that was assigned holds the assigned value, and every other text key
what it held before. -/
theorem get?_set (entries : Entries) (key other : String) (value : Value) :
    (entries.set key value).get? other =
      if other = key then some value else entries.get? other := by
  unfold get? set
  induction entries with
  | nil => by_cases equality : other = key <;> simp [find?, assign, equality]
  | cons entry rest inductionHypothesis =>
    obtain ⟨name, old⟩ := entry
    by_cases match1 : (Atom.text key).same name = true
    · have shape : name = .text key := by
        cases name <;> simp_all [Atom.same, Atom.integer?]
      subst shape
      by_cases equality : other = key <;> simp [find?, assign, equality]
    · simp only [assign, match1, if_false, Bool.false_eq_true]
      by_cases match2 : (Atom.text other).same name = true
      · have different : other ≠ key := by
          rintro rfl
          exact match1 match2
        simp [find?, match2, different]
      · simp [find?, match2, inductionHypothesis]

/-- Assigning a value to a text key is not seen under any other key. -/
theorem find?_assign_of_ne (entries : Entries) {name : String} {key : Atom}
    (different : key ≠ .text name) (value : Value) :
    (entries.assign (.text name) value).find? key = entries.find? key := by
  have apart : key.same (.text name) = false := by
    cases key with
    | text content => simpa using different
    | _ => simp [Atom.same, Atom.integer?]
  induction entries with
  | nil => simp [find?, apart]
  | cons entry rest inductionHypothesis =>
    obtain ⟨other, old⟩ := entry
    by_cases here : (Atom.text name).same other = true
    · have shape : other = .text name := by
        cases other <;> simp_all [Atom.same, Atom.integer?]
      simp [assign, find?, shape, apart]
    · simp [assign, here, find?, inductionHypothesis]

/-- Assigning the value that a text key holds already changes nothing. -/
theorem set_eq_self {entries : Entries} {key : String} {value : Value}
    (present : entries.get? key = some value) : entries.set key value = entries := by
  unfold get? set at *
  induction entries with
  | nil => simp at present
  | cons entry rest inductionHypothesis =>
    obtain ⟨name, old⟩ := entry
    rw [find?] at present
    rw [assign]
    split at present
    · next match1 =>
      obtain rfl : old = value := by simpa using present
      rw [if_pos match1]
    · next match1 => rw [if_neg match1, inductionHypothesis present]

end Entries

end CommandHost
