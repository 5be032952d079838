import CommandHost.Value.Basic

/-!
# Equality of values

Numbers are equal when their mathematical values are, lists when their items are
equal in order, mappings when they have the same keys with equal values in
whatever order. A value that holds a number which is no number equals nothing.
-/

namespace CommandHost.Value

mutual

/-- Whether two values are equal. -/
def same : Value → Value → Bool
  | .atom a, .atom b => a.same b
  | .list items, .list others => sameItems items others
  | .map entries, .map others => entries.length == others.length && sameEntries entries others
  | _, _ => false

/-- Whether two lists have equal items in the same order. -/
def sameItems : List Value → List Value → Bool
  | [], [] => true
  | item :: rest, other :: others => same item other && sameItems rest others
  | _, _ => false

/-- Whether every entry has an equal one among the others. -/
def sameEntries : List (Atom × Value) → Entries → Bool
  | [], _ => true
  | (key, value) :: rest, others =>
    (match others.find? key with
      | some other => same value other
      | none => false) && sameEntries rest others

end

end CommandHost.Value
