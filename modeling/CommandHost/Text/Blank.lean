/-!
# Blank characters, words and margins

The separators of command text are the blank characters listed in `isBlank`.
`words` cuts a text at its runs of blanks, `strip` removes the blanks at both
ends. The main facts: every word is non-empty and free of blanks, and a blank
in front of a text never changes its words.
-/

namespace CommandHost.Text

/-- The blank characters: the control characters from tab to carriage return
and from file separator to unit separator, the space, next line, and the space
and line separators of Unicode. -/
def isBlank (c : Char) : Bool :=
  let code := c.toNat
  (9 ≤ code && code ≤ 13) || (28 ≤ code && code ≤ 32) || code == 0x85 || code == 0xA0 ||
    code == 0x1680 || (0x2000 ≤ code && code ≤ 0x200A) || code == 0x2028 || code == 0x2029 ||
    code == 0x202F || code == 0x205F || code == 0x3000

/-- A text that holds blanks only, or nothing at all. -/
def isBlankText (text : List Char) : Bool := text.all isBlank

/-- The maximal runs of characters that are not blank, in order. -/
def words : List Char → List (List Char)
  | [] => []
  | c :: rest =>
    if isBlank c then words rest
    else
      match rest with
      | [] => [[c]]
      | next :: _ =>
        if isBlank next then [c] :: words rest
        else
          match words rest with
          | [] => [[c]]
          | word :: others => (c :: word) :: others

/-- The text without the blanks at its end. -/
def stripEnd (text : List Char) : List Char := (text.reverse.dropWhile isBlank).reverse

/-- The text without the blanks at its two ends. -/
def strip (text : List Char) : List Char := stripEnd (text.dropWhile isBlank)

/-- The text of a string without the blanks at its two ends. -/
def stripString (text : String) : String := String.ofList (strip text.toList)

/-! ## Small facts -/

@[simp] theorem words_nil : words [] = [] := rfl

theorem words_cons_blank {c : Char} (blank : isBlank c = true) (rest : List Char) :
    words (c :: rest) = words rest := by
  rw [words.eq_def]
  exact if_pos blank

/-- A character that is not blank begins a word. -/
theorem words_cons_ne_nil {c : Char} (solid : isBlank c = false) (rest : List Char) :
    words (c :: rest) ≠ [] := by
  cases rest with
  | nil =>
    rw [words.eq_def]
    simp [solid]
  | cons next tail =>
    rw [words.eq_def]
    simp only [solid, Bool.false_eq_true, if_false]
    split
    · simp
    · split <;> simp

/-- Every word has at least one character, and none of its characters is blank. -/
theorem words_solid (text : List Char) :
    ∀ word ∈ words text, word ≠ [] ∧ ∀ c ∈ word, isBlank c = false := by
  induction text with
  | nil => simp
  | cons c rest inductionHypothesis =>
    by_cases blank : isBlank c = true
    · simpa [words_cons_blank blank] using inductionHypothesis
    · have solid : isBlank c = false := by simpa using blank
      cases rest with
      | nil =>
        rw [words.eq_def]
        simp [solid]
      | cons next tail =>
        rw [words.eq_def]
        simp only [solid, Bool.false_eq_true, if_false]
        split
        · intro word member
          rcases List.mem_cons.mp member with rfl | member
          · simp [solid]
          · exact inductionHypothesis word member
        · split
          · intro word member
            simp only [List.mem_singleton] at member
            subst member
            simp [solid]
          · next _ first others equality =>
            intro word member
            rw [equality] at inductionHypothesis
            rcases List.mem_cons.mp member with rfl | member
            · refine ⟨by simp, ?_⟩
              intro x inside
              rcases List.mem_cons.mp inside with rfl | inside
              · exact solid
              · exact (inductionHypothesis first (by simp)).2 x inside
            · exact inductionHypothesis word (by simp [member])

/-! ## Margins -/

theorem dropWhile_isBlank_eq_nil_iff {text : List Char} :
    text.dropWhile isBlank = [] ↔ isBlankText text = true := by
  induction text with
  | nil => simp [isBlankText]
  | cons c rest inductionHypothesis =>
    by_cases blank : isBlank c = true
    · rw [List.dropWhile_cons_of_pos blank, inductionHypothesis, isBlankText, isBlankText,
        List.all_cons, blank, Bool.true_and]
    · rw [List.dropWhile_cons_of_neg blank, isBlankText, List.all_cons]
      simp [blank]

theorem stripEnd_append_of_blank (text : List Char) {after : List Char}
    (blank : isBlankText after = true) : stripEnd (text ++ after) = stripEnd text := by
  have reversed : isBlankText after.reverse = true := by simpa [isBlankText] using blank
  rw [stripEnd, List.reverse_append, List.dropWhile_append,
    dropWhile_isBlank_eq_nil_iff.mpr reversed]
  rfl

theorem stripEnd_append_of_solid (text : List Char) {after : List Char}
    (solid : isBlankText after = false) : stripEnd (text ++ after) = text ++ stripEnd after := by
  have reversed : after.reverse.dropWhile isBlank ≠ [] := by
    rw [ne_eq, dropWhile_isBlank_eq_nil_iff]
    simpa [isBlankText] using solid
  rw [stripEnd, List.reverse_append, List.dropWhile_append,
    if_neg (by simpa using reversed), List.reverse_append, List.reverse_reverse]
  rfl

theorem strip_append_of_blank (text : List Char) {after : List Char}
    (blank : isBlankText after = true) : strip (text ++ after) = strip text := by
  rw [strip, List.dropWhile_append]
  split
  · next empty =>
      rw [strip, List.isEmpty_iff.mp empty, dropWhile_isBlank_eq_nil_iff.mpr blank]
  · exact stripEnd_append_of_blank _ blank

theorem strip_append_of_blank_left {text : List Char} (blank : isBlankText text = true)
    (after : List Char) : strip (text ++ after) = strip after := by
  rw [strip, List.dropWhile_append, dropWhile_isBlank_eq_nil_iff.mpr blank]
  rfl

theorem stripEnd_eq_nil_iff {text : List Char} :
    stripEnd text = [] ↔ isBlankText text = true := by
  rw [stripEnd, List.reverse_eq_nil_iff, dropWhile_isBlank_eq_nil_iff]
  simp [isBlankText]

theorem strip_eq_nil_iff {text : List Char} : strip text = [] ↔ isBlankText text = true := by
  constructor
  · intro empty
    rw [strip, stripEnd_eq_nil_iff] at empty
    rw [← dropWhile_isBlank_eq_nil_iff]
    -- What is left of a text begins with a character that is not blank.
    cases left : text.dropWhile isBlank with
    | nil => rfl
    | cons c rest =>
        have remains : text.dropWhile isBlank ≠ [] := left ▸ List.cons_ne_nil c rest
        have solid := List.head_dropWhile_not isBlank remains
        rw [left, isBlankText, List.all_cons, Bool.and_eq_true] at empty
        simp only [left, List.head_cons, empty.1, Bool.true_eq_false] at solid
  · intro blank
    rw [strip, dropWhile_isBlank_eq_nil_iff.mpr blank]
    rfl

theorem dropWhile_isBlank_solid (text : List Char) :
    ∀ c ∈ (text.dropWhile isBlank).head?, isBlank c = false := by
  intro c first
  have solid := List.head?_dropWhile_not isBlank text
  rw [Option.mem_def.mp first] at solid
  exact solid

theorem dropWhile_isBlank_eq_self {text : List Char}
    (solid : ∀ c ∈ text.head?, isBlank c = false) : text.dropWhile isBlank = text := by
  cases text with
  | nil => rfl
  | cons c rest => exact List.dropWhile_cons_of_neg (by simp [solid c rfl])

/-- What is left of a text neither begins nor ends with a blank. -/
theorem strip_solid (text : List Char) :
    (∀ c ∈ (strip text).head?, isBlank c = false) ∧
      ∀ c ∈ (strip text).getLast?, isBlank c = false := by
  constructor
  · intro c first
    obtain ⟨removed, whole⟩ : strip text <+: text.dropWhile isBlank := by
      rw [strip, stripEnd, ← List.reverse_suffix, List.reverse_reverse]
      exact List.dropWhile_suffix isBlank
    refine dropWhile_isBlank_solid text c ?_
    rw [← whole, List.head?_append, Option.mem_def.mp first]
    rfl
  · rw [strip, stripEnd, List.getLast?_reverse]
    exact dropWhile_isBlank_solid _

/-- A text that neither begins nor ends with a blank is left as it is. -/
theorem strip_eq_self {text : List Char} (first : ∀ c ∈ text.head?, isBlank c = false)
    (last : ∀ c ∈ text.getLast?, isBlank c = false) : strip text = text := by
  rw [strip, dropWhile_isBlank_eq_self first, stripEnd,
    dropWhile_isBlank_eq_self (by rwa [List.head?_reverse]), List.reverse_reverse]

/-- Text behind a text that is not blank shows, unless it is blank itself. -/
theorem strip_append_ne {text after : List Char} (solid : isBlankText text = false)
    (solidAfter : isBlankText after = false) : strip (text ++ after) ≠ strip text := by
  have left : text.dropWhile isBlank ≠ [] := by
    rw [ne_eq, dropWhile_isBlank_eq_nil_iff, solid]
    simp
  rw [strip, List.dropWhile_append, if_neg (by simpa using left),
    stripEnd_append_of_solid _ solidAfter]
  intro same
  have shorter : (strip text).length ≤ (text.dropWhile isBlank).length := by
    rw [strip, stripEnd, List.length_reverse]
    simpa using (List.dropWhile_suffix isBlank (l := (text.dropWhile isBlank).reverse)).length_le
  have longer : stripEnd after ≠ [] := by
    rw [ne_eq, stripEnd_eq_nil_iff, solidAfter]
    simp
  have := List.length_pos_iff.mpr longer
  rw [← same, List.length_append] at shorter
  omega

/-! ## Words and margins -/

theorem words_append_of_blank_left {front : List Char} (blank : isBlankText front = true)
    (rest : List Char) : words (front ++ rest) = words rest := by
  induction front with
  | nil => rfl
  | cons c front inductionHypothesis =>
    obtain ⟨first, others⟩ : isBlank c = true ∧ isBlankText front = true := by
      simpa [isBlankText] using blank
    rw [List.cons_append, words_cons_blank first, inductionHypothesis others]

theorem words_eq_nil_iff {text : List Char} : words text = [] ↔ isBlankText text = true := by
  constructor
  · intro none
    induction text with
    | nil => rfl
    | cons c rest inductionHypothesis =>
      cases blank : isBlank c with
      | true =>
        rw [words_cons_blank blank] at none
        simpa [isBlankText, blank] using inductionHypothesis none
      | false => exact absurd none (words_cons_ne_nil blank rest)
  · intro blank
    simpa using words_append_of_blank_left blank []

/-- A blank separates the words in front of it from those behind it. -/
theorem words_append_cons_blank (text : List Char) {c : Char} (blank : isBlank c = true)
    (rest : List Char) : words (text ++ c :: rest) = words text ++ words rest := by
  induction text with
  | nil => exact words_cons_blank blank rest
  | cons first tail inductionHypothesis =>
    by_cases firstBlank : isBlank first = true
    · rw [List.cons_append, words_cons_blank firstBlank, words_cons_blank firstBlank,
        inductionHypothesis]
    · have solid : isBlank first = false := by simpa using firstBlank
      cases tail with
      | nil =>
        rw [List.cons_append, List.nil_append, words.eq_def, words.eq_def [first]]
        simp [solid, blank, words_cons_blank blank]
      | cons second others =>
        rw [List.cons_append] at inductionHypothesis ⊢
        rw [List.cons_append, words.eq_def, words.eq_def (first :: second :: others)]
        simp only [solid, Bool.false_eq_true, if_false, inductionHypothesis]
        split
        · rfl
        · next secondSolid =>
          have some := words_cons_ne_nil (by simpa using secondSolid) others
          cases found : words (second :: others) with
          | nil => exact absurd found some
          | cons word more => rfl

/-- Blanks at the ends of a text do not change its words. -/
theorem words_strip (text : List Char) : words (strip text) = words text := by
  have ending : ∀ text : List Char, words (stripEnd text) = words text := by
    intro text
    have whole : stripEnd text ++ (text.reverse.takeWhile isBlank).reverse = text := by
      rw [stripEnd, ← List.reverse_append, List.takeWhile_append_dropWhile,
        List.reverse_reverse]
    cases blanks : (text.reverse.takeWhile isBlank).reverse with
    | nil => rw [← List.append_nil (stripEnd text), ← blanks, whole]
    | cons c rest =>
      have blank : isBlankText (c :: rest) = true := by
        rw [← blanks, isBlankText, List.all_reverse]
        exact List.all_takeWhile
      obtain ⟨first, others⟩ : isBlank c = true ∧ isBlankText rest = true := by
        simpa [isBlankText] using blank
      rw [blanks] at whole
      conv => rhs; rw [← whole]
      rw [words_append_cons_blank _ first, words_eq_nil_iff.mpr others, List.append_nil]
  have beginning : isBlankText (text.takeWhile isBlank) = true := List.all_takeWhile
  conv => rhs; rw [← List.takeWhile_append_dropWhile (p := isBlank) (l := text)]
  rw [strip, ending, words_append_of_blank_left beginning]

end CommandHost.Text
