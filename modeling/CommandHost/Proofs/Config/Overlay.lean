import CommandHost.Config.Layers
import CommandHost.Proofs.Value.Entries

/-!
# Laying one mapping over another

What `Entries.overlay` does to a text key is said by one equation: the key holds what
the upper mapping has for it, laid over what the lower mapping has, and without an
entry in the upper mapping it holds what it held before.  The keys of the upper mapping
have to be distinct, as the keys of every mapping are that was read from a YAML text.
-/

namespace CommandHost

namespace Entries

/-- What a text key holds after a mapping was laid over another one. -/
theorem get?_overlay (entries : Entries) {others : Entries} (distinct : others.Distinct)
    (name : String) :
    (entries.overlay others).get? name =
      match others.get? name with
      | none => entries.get? name
      | some other =>
        some (match entries.get? name with
          | some value => value.overlay other
          | none => other) := by
  induction others generalizing entries with
  | nil => rw [overlay]; rfl
  | cons entry rest inductionHypothesis =>
      obtain ⟨key, other⟩ := entry
      obtain ⟨absent, restDistinct⟩ := List.pairwise_cons.mp distinct
      rw [overlay, inductionHypothesis _ restDistinct, get?_cons]
      by_cases here : (Atom.text name).same key = true
      · obtain rfl := Atom.text_same_iff.mp here
        have notLater : get? rest name = none := get?_eq_none absent
        simp only [notLater, get?_assign, if_pos here]
        rfl
      · simp only [get?_assign, if_neg here]

end Entries

/-- Only two mappings are merged: anything else is replaced. -/
theorem Value.overlay_of_no_mapping {value other : Value}
    (single : (∀ entries, value ≠ .map entries) ∨ ∀ entries, other ≠ .map entries) :
    value.overlay other = other := by
  cases other with
  | map others =>
      have noMapping := single.resolve_right fun none => none others rfl
      cases value with
      | map entries => exact absurd rfl (noMapping entries)
      | _ => simp [overlay]
  | _ => simp [overlay]

end CommandHost
