import CommandHost.Text.Blank
import CommandHost.Text.Pieces

/-!
# Names of operations

Operations are found by their normal name, in which a hyphen, a space and an
underscore are the same and blanks at the ends do not count.
-/

namespace CommandHost

/-- The normal name of an operation, on characters. -/
def normalOpChars (name : List Char) : List Char :=
  Text.replaceChar ' ' '_' (Text.replaceChar '-' '_' (Text.strip name))

/-- The normal name of an operation. -/
def normalOpName (name : String) : String := String.ofList (normalOpChars name.toList)

/-! ## Small facts -/

/-- The normal name changes characters one by one, once the blanks at the ends are gone. -/
theorem normalOpChars_eq_map (name : List Char) :
    normalOpChars name =
      (Text.strip name).map fun c => if c = '-' ∨ c = ' ' then '_' else c := by
  rw [normalOpChars, Text.replaceChar, Text.replaceChar, List.map_map]
  refine List.map_congr_left fun c _ => ?_
  by_cases hyphen : c = '-'
  · simp [hyphen]
  · simp [hyphen]

/-- A normal name is its own normal name. -/
theorem normalOpChars_normalOpChars (name : List Char) :
    normalOpChars (normalOpChars name) = normalOpChars name := by
  have solid : ∀ c : Char, Text.isBlank c = false →
      Text.isBlank (if c = '-' ∨ c = ' ' then '_' else c) = false := by
    intro c isSolid
    split
    · decide
    · exact isSolid
  obtain ⟨first, last⟩ := Text.strip_solid name
  have bare : Text.strip (normalOpChars name) = normalOpChars name := by
    rw [normalOpChars_eq_map]
    refine Text.strip_eq_self ?_ ?_
    · intro other isFirst
      rw [List.head?_map] at isFirst
      obtain ⟨c, found, rfl⟩ := Option.map_eq_some_iff.mp isFirst
      exact solid c (first c found)
    · intro other isLast
      rw [List.getLast?_map] at isLast
      obtain ⟨c, found, rfl⟩ := Option.map_eq_some_iff.mp isLast
      exact solid c (last c found)
  rw [normalOpChars_eq_map (normalOpChars name), bare, normalOpChars_eq_map, List.map_map]
  refine List.map_congr_left fun c _ => ?_
  by_cases separator : c = '-' ∨ c = ' '
  · simp [separator]
  · simp [separator]

theorem normalOpName_normalOpName (name : String) :
    normalOpName (normalOpName name) = normalOpName name := by
  rw [normalOpName, normalOpName, String.toList_ofList, normalOpChars_normalOpChars]

end CommandHost
