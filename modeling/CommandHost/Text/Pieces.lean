/-!
# Cutting and replacing pieces of a text

Replacement goes from left to right and never looks at what it has written: an
occurrence that begins inside a replaced one is not an occurrence. A cut is
made at the first, or at the last, place where a character stands.
-/

namespace CommandHost.Text

/-- Replaces every occurrence of `old` by `new`, from left to right and without
overlaps. The first argument counts the characters of an occurrence that are
still to be passed over. An empty `old` is not meant to be given. -/
def replaceFrom (old new : List Char) : Nat → List Char → List Char
  | _, [] => []
  | skip + 1, _ :: rest => replaceFrom old new skip rest
  | 0, c :: rest =>
    if old.isPrefixOf (c :: rest) then
      new ++ replaceFrom old new (old.length - 1) rest
    else
      c :: replaceFrom old new 0 rest

/-- Replaces every occurrence of `old`, which is not empty, by `new`. -/
def replaceAll (old new text : List Char) : List Char := replaceFrom old new 0 text

/-- Replaces one character by another one. -/
def replaceChar (old new : Char) (text : List Char) : List Char :=
  text.map fun c => if c = old then new else c

/-- The part before the first `mark` and the part after it, if `mark` occurs. -/
def cutAtFirst? (mark : Char) : List Char → Option (List Char × List Char)
  | [] => none
  | c :: rest =>
    if c = mark then some ([], rest)
    else (cutAtFirst? mark rest).map fun (before, after) => (c :: before, after)

/-- What follows the last `mark`: the whole text if `mark` does not occur. -/
def afterLast (mark : Char) (text : List Char) : List Char :=
  (text.reverse.takeWhile (· != mark)).reverse

/-! ## Small facts -/

theorem cutAtFirst?_eq_none_iff {mark : Char} {text : List Char} :
    cutAtFirst? mark text = none ↔ mark ∉ text := by
  induction text with
  | nil => simp [cutAtFirst?]
  | cons c rest inductionHypothesis =>
    by_cases equality : c = mark
    · simp [cutAtFirst?, equality]
    · simp [cutAtFirst?, equality, inductionHypothesis, Ne.symm equality]

/-- The cut loses nothing but the mark, and the part before it holds no mark. -/
theorem cutAtFirst?_eq_some {mark : Char} {text before after : List Char}
    (cut : cutAtFirst? mark text = some (before, after)) :
    text = before ++ mark :: after ∧ mark ∉ before := by
  induction text generalizing before with
  | nil => simp [cutAtFirst?] at cut
  | cons c rest inductionHypothesis =>
    by_cases equality : c = mark
    · simp only [cutAtFirst?, equality, if_true, Option.some.injEq, Prod.mk.injEq] at cut
      simp [← cut.1, ← cut.2, equality]
    · simp only [cutAtFirst?, equality, if_false, Option.map_eq_some_iff] at cut
      obtain ⟨⟨inner, tail⟩, innerCut, pair⟩ := cut
      simp only [Prod.mk.injEq] at pair
      obtain ⟨rfl, rfl⟩ := pair
      obtain ⟨restEq, absent⟩ := inductionHypothesis innerCut
      simp [restEq, absent, Ne.symm equality]

/-- A cut is made behind a part in front that holds no mark. -/
theorem cutAtFirst?_append {mark : Char} {front : List Char} (absent : mark ∉ front)
    (rest : List Char) :
    cutAtFirst? mark (front ++ rest) =
      (cutAtFirst? mark rest).map (Prod.map (front ++ ·) id) := by
  induction front with
  | nil =>
      rw [List.nil_append]
      cases cutAtFirst? mark rest <;> rfl
  | cons c tail inductionHypothesis =>
      have different : c ≠ mark := fun same => absent (same ▸ List.mem_cons_self)
      have tailAbsent : mark ∉ tail := fun member => absent (List.mem_cons_of_mem c member)
      rw [List.cons_append, cutAtFirst?, if_neg different, inductionHypothesis tailAbsent]
      cases cutAtFirst? mark rest <;> rfl

end CommandHost.Text
