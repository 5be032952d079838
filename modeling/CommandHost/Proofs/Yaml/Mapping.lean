import CommandHost.Proofs.Value.Entries
import CommandHost.Yaml.Content
import CommandHost.Proofs.Result
import Mathlib.Logic.Basic

/-!
# Mappings that were read from YAML

The mappings of a document are made by assigning one entry after another, so their keys
are distinct.  This holds at every depth, because the values of a mapping are themselves
values of nodes, also those that a merge key takes over from elsewhere.
-/

namespace CommandHost.Yaml

/-- The value of some node. -/
def IsNodeValue (value : Value) : Prop := ∃ node : Node, node.toValue = .ok value

/-- The entries of a mapping begin with what a merge key takes over, or with an entry of
its own. -/
theorem splitEntries_cons {key node : Node} {rest : List (Node × Node)}
    {merged own : List (Atom × Value)}
    (split : splitEntries ((key, node) :: rest) = .ok (merged, own)) :
    ∃ merged' own', splitEntries rest = .ok (merged', own') ∧
      ((∃ found, node.taken = .ok found ∧ merged = found ++ merged' ∧ own = own') ∨
        ∃ name value, node.toValue = .ok value ∧ merged = merged' ∧
          own = (name, value) :: own') := by
  rw [splitEntries] at split
  split at split
  · simp only [bind_eq_ok_iff] at split
    obtain ⟨found, taken, ⟨merged', own'⟩, splitRest, parts⟩ := split
    obtain ⟨rfl, rfl⟩ := Prod.mk.inj (Except.ok.inj parts)
    exact ⟨merged', own', splitRest, .inl ⟨found, taken, rfl, rfl⟩⟩
  · have added : ∃ name value, node.toValue = .ok value ∧ ∃ parts,
        splitEntries rest = .ok parts ∧ (parts.1, (name, value) :: parts.2) = (merged, own) := by
      split at split
      · simp only [bind_eq_ok_iff] at split
        obtain ⟨name, -, value, valued, parts, splitRest, same⟩ := split
        exact ⟨name, value, valued, parts, splitRest, Except.ok.inj same⟩
      · simp only [bind_eq_ok_iff] at split
        obtain ⟨-, -, name, -, value, valued, parts, splitRest, same⟩ := split
        exact ⟨name, value, valued, parts, splitRest, Except.ok.inj same⟩
    obtain ⟨name, value, valued, ⟨merged', own'⟩, splitRest, same⟩ := added
    obtain ⟨rfl, rfl⟩ : merged' = merged ∧ (name, value) :: own' = own := by
      simpa using same
    exact ⟨merged', own', splitRest, .inr ⟨name, value, valued, rfl, rfl⟩⟩

mutual

theorem splitEntries_isNodeValue :
    ∀ (entries : List (Node × Node)) {merged own : List (Atom × Value)},
      splitEntries entries = .ok (merged, own) →
        ∀ value ∈ (merged ++ own).map Prod.snd, IsNodeValue value
  | [], merged, own, split => by
      obtain ⟨rfl, rfl⟩ : merged = [] ∧ own = [] := by
        simpa [splitEntries, eq_comm] using split
      simp
  | (key, node) :: rest, merged, own, split => by
      obtain ⟨merged', own', splitRest, first⟩ := splitEntries_cons split
      have restHolds := splitEntries_isNodeValue rest splitRest
      simp only [List.map_append, List.mem_append] at restHolds ⊢
      rcases first with ⟨found, taken, rfl, rfl⟩ | ⟨name, value, valued, rfl, rfl⟩
      · have foundHolds := taken_isNodeValue node taken
        simp only [List.map_append, List.mem_append]
        rintro value ((inFound | inMerged) | inOwn)
        · exact foundHolds value inFound
        · exact restHolds value (.inl inMerged)
        · exact restHolds value (.inr inOwn)
      · simp only [List.map_cons, List.mem_cons]
        rintro other (inMerged | rfl | inOwn)
        · exact restHolds other (.inl inMerged)
        · exact ⟨node, valued⟩
        · exact restHolds other (.inr inOwn)

theorem taken_isNodeValue :
    ∀ (node : Node) {entries : List (Atom × Value)}, node.taken = .ok entries →
      ∀ value ∈ entries.map Prod.snd, IsNodeValue value
  | .mapping kind pairs, entries, taken => by
      rw [Node.taken, map_eq_ok_iff] at taken
      obtain ⟨⟨merged, own⟩, split, rfl⟩ := taken
      exact splitEntries_isNodeValue pairs split
  | .sequence kind items, entries, taken => by
      rw [Node.taken] at taken
      exact takenItems_isNodeValue items taken
  | .scalar kind content, entries, taken => by
      simp [Node.taken] at taken

theorem takenItems_isNodeValue :
    ∀ (items : List Node) {entries : List (Atom × Value)}, takenItems items = .ok entries →
      ∀ value ∈ entries.map Prod.snd, IsNodeValue value
  | [], entries, taken => by
      obtain rfl : entries = [] := by simpa [takenItems, eq_comm] using taken
      simp
  | .mapping kind pairs :: rest, entries, taken => by
      simp only [takenItems, bind_eq_ok_iff] at taken
      obtain ⟨⟨merged, own⟩, split, later, takenRest, same⟩ := taken
      obtain rfl : later ++ merged ++ own = entries := Except.ok.inj same
      have pairsHold := splitEntries_isNodeValue pairs split
      intro value member
      rw [List.append_assoc, List.map_append] at member
      rcases List.mem_append.mp member with inLater | inPairs
      · exact takenItems_isNodeValue rest takenRest value inLater
      · exact pairsHold value inPairs
  | .sequence _ _ :: _, entries, taken => by simp [takenItems] at taken
  | .scalar _ _ :: _, entries, taken => by simp [takenItems] at taken

end

/-- A scalar is never a mapping. -/
theorem scalarValue_ne_map {kind : Kind} {content : String} {entries : Entries} :
    scalarValue kind content ≠ .ok (.map entries) := by
  intro valued
  cases kind with
  | null => simp [scalarValue] at valued
  | bool =>
      simp only [scalarValue, boolValue] at valued
      split at valued
      · simp at valued
      · split at valued <;> simp at valued
  | int => simp [scalarValue, intValue, map_eq_ok_iff] at valued
  | float =>
      simp only [scalarValue, floatValue] at valued
      split at valued <;> simp [map_eq_ok_iff] at valued
  | moment =>
      simp only [scalarValue, momentValue] at valued
      split at valued
      · simp at valued
      · split at valued
        · -- In or out of its ranges: neither outcome is a mapping.
          rcases ite_eq_iff.mp valued with ⟨-, inside⟩ | ⟨-, outside⟩
          · simp at inside
          · simp [badNotation] at outside
        · simp [badNotation] at valued
  | text => simp [scalarValue] at valued
  | _ => simp [scalarValue] at valued

/-- A mapping of a document has distinct keys, and its values are values of nodes. -/
theorem IsNodeValue.of_map {entries : Entries} (isValue : IsNodeValue (.map entries)) :
    entries.Distinct ∧ ∀ value ∈ entries.values, IsNodeValue value := by
  obtain ⟨node, valued⟩ := isValue
  cases node with
  | scalar kind content =>
      rw [Node.toValue] at valued
      exact absurd valued scalarValue_ne_map
  | sequence kind items =>
      cases kind <;> simp [Node.toValue, map_eq_ok_iff] at valued
  | mapping kind pairs =>
      by_cases isMapping : kind = .mapping
      · subst isMapping
        rw [Node.toValue, map_eq_ok_iff] at valued
        obtain ⟨⟨merged, own⟩, split, same⟩ := valued
        obtain rfl : Entries.ofPairs (merged ++ own) = entries := by simpa using same
        refine ⟨Entries.distinct_ofPairs _, fun value member => ?_⟩
        exact splitEntries_isNodeValue pairs split value
          (Entries.values_ofPairs _ value member)
      · cases kind <;> simp_all [Node.toValue, map_eq_ok_iff]

end CommandHost.Yaml
