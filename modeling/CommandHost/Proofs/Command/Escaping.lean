import CommandHost.Command.Spans
import Mathlib.Data.List.Infix

/-!
# Escaping quoted values

A text of the rich dialect is cut at its blanks only after the blanks inside its
quoted spans were filled by the sentinel.  This module says what the three
stages do to the pieces of a written text:

* the words of tokens that are joined by single spaces are these tokens;
* filling leaves text without quotes alone and maps the content of a span
  character by character;
* unescaping gives the content back, unless the content itself holds the
  beginning of a sentinel.
-/

namespace CommandHost

/-! ## Words of a joined text -/

namespace Text

/-- A token that a cut at blanks leaves whole. -/
def IsWord (token : List Char) : Prop :=
  token ≠ [] ∧ ∀ c ∈ token, isBlank c = false

/-- A property of all characters of a text can be computed character by character. -/
theorem forall_mem_of_all {holds : Char → Prop} [DecidablePred holds] {text : List Char}
    (all : text.all (fun c => decide (holds c)) = true) : ∀ c ∈ text, holds c := by
  intro c member
  exact of_decide_eq_true (List.all_eq_true.mp all c member)

/-- A word in front of a text that begins with a blank, or is empty, is cut off. -/
theorem words_append {token rest : List Char} (isWord : IsWord token)
    (boundary : ∀ c ∈ rest.head?, isBlank c = true) :
    words (token ++ rest) = token :: words rest := by
  obtain ⟨nonempty, solid⟩ := isWord
  induction token with
  | nil => exact absurd rfl nonempty
  | cons first tail inductionHypothesis =>
      have firstSolid : isBlank first = false :=
        solid first List.mem_cons_self
      cases tail with
      | nil =>
          cases rest with
          | nil =>
              rw [List.append_nil, words.eq_def]
              simp only [firstSolid, Bool.false_eq_true, if_false, words_nil]
          | cons c more =>
              have blank : isBlank c = true := boundary c rfl
              rw [List.singleton_append, words.eq_def]
              simp only [firstSolid, blank, Bool.false_eq_true, if_false, if_true]
      | cons second others =>
          have secondSolid : isBlank second = false := solid second (by simp)
          have tailWords :
              words (second :: others ++ rest) =
                (second :: others) :: words rest :=
            inductionHypothesis (by simp) fun x member =>
              solid x (List.mem_cons_of_mem first member)
          simp only [List.cons_append] at tailWords ⊢
          rw [words.eq_def]
          simp only [firstSolid, secondSolid, Bool.false_eq_true, if_false, tailWords]

theorem words_of_isWord {token : List Char} (isWord : IsWord token) : words token = [token] := by
  have alone : words (token ++ []) = token :: words [] := words_append isWord (by simp)
  rwa [List.append_nil, words_nil] at alone

/-- Cutting at blanks undoes joining by single spaces, also in front of a text that begins
with a blank. -/
theorem words_intercalate_append {tokens : List (List Char)}
    (isWord : ∀ token ∈ tokens, IsWord token) {rest : List Char}
    (boundary : ∀ c ∈ rest.head?, isBlank c = true) :
    words (List.intercalate [' '] tokens ++ rest) = tokens ++ words rest := by
  induction tokens with
  | nil => rfl
  | cons first others inductionHypothesis =>
      have firstWord : IsWord first := isWord first List.mem_cons_self
      cases others with
      | nil => simpa using words_append firstWord boundary
      | cons second tail =>
          have laterWords :
              words (List.intercalate [' '] (second :: tail) ++ rest) =
                second :: tail ++ words rest :=
            inductionHypothesis fun token member =>
              isWord token (List.mem_cons_of_mem first member)
          rw [List.intercalate_cons_cons, List.append_assoc, List.append_assoc,
            List.singleton_append, words_append firstWord (by simp [isBlank]),
            words_cons_blank (by decide), laterWords]
          rfl

/-- Cutting at blanks undoes joining by single spaces. -/
theorem words_intercalate {tokens : List (List Char)}
    (isWord : ∀ token ∈ tokens, IsWord token) :
    words (List.intercalate [' '] tokens) = tokens := by
  simpa using @words_intercalate_append tokens isWord [] (by simp)

/-- A text that does not hold `old` is not changed by replacing it. -/
theorem replaceAll_eq_self {old new text : List Char} (absent : ¬ old <:+: text) :
    replaceAll old new text = text := by
  unfold replaceAll
  induction text with
  | nil => rfl
  | cons c rest inductionHypothesis =>
      have notHere : ¬ old <+: c :: rest := fun here => absent here.isInfix
      have notLater : ¬ old <:+: rest := fun later =>
        absent (later.trans (List.suffix_cons c rest).isInfix)
      rw [replaceFrom, if_neg (by simpa using notHere), inductionHypothesis notLater]

end Text

/-! ## Filling the blanks of spans -/

namespace Spans

variable {fill : Char → List Char}

/-- The content of a span with its blanks filled. -/
def fillBlanks (fill : Char → List Char) (content : List Char) : List Char :=
  content.flatMap fun c => if Text.isBlank c then fill c else [c]

theorem mapBlanks_plain {plain : List Char}
    (unquoted : ∀ c ∈ plain, isQuote c = false) (rest : List Char) :
    mapBlanks fill none (plain ++ rest) = plain ++ mapBlanks fill none rest := by
  induction plain with
  | nil => rfl
  | cons c tail inductionHypothesis =>
      have cUnquoted : isQuote c = false := unquoted c List.mem_cons_self
      have tailUnquoted : ∀ x ∈ tail, isQuote x = false := fun x member =>
        unquoted x (List.mem_cons_of_mem c member)
      simp [mapBlanks, cUnquoted, inductionHypothesis tailUnquoted]

theorem mapBlanks_inside {quote : Char} {content : List Char}
    (absent : quote ∉ content) (rest : List Char) :
    mapBlanks fill (some quote) (content ++ quote :: rest) =
      fillBlanks fill content ++ quote :: mapBlanks fill none rest := by
  induction content with
  | nil => simp [mapBlanks, fillBlanks]
  | cons c tail inductionHypothesis =>
      have different : c ≠ quote := by
        rintro rfl
        exact absent List.mem_cons_self
      have tailAbsent : quote ∉ tail := fun member =>
        absent (List.mem_cons_of_mem c member)
      rw [List.cons_append, mapBlanks, if_neg different, inductionHypothesis tailAbsent]
      simp [fillBlanks]

theorem isBlank_of_isQuote {c : Char} (quotes : isQuote c = true) :
    Text.isBlank c = false := by
  simp only [isQuote, Bool.or_eq_true, beq_iff_eq] at quotes
  rcases quotes with rfl | rfl <;> rfl

/-- A value between two quotes that it does not hold is filled as a whole. -/
theorem mapBlanks_span {quote : Char} {content : List Char}
    (quotes : isQuote quote = true) (absent : quote ∉ content) (rest : List Char) :
    mapBlanks fill none (quote :: (content ++ quote :: rest)) =
      quote :: (fillBlanks fill content ++ quote :: mapBlanks fill none rest) := by
  rw [mapBlanks]
  simp [quotes, mapBlanks_inside absent]

/-- A token that filling takes to another one, whatever follows it. -/
def FillsTo (fill : Char → List Char) (token filled : List Char) : Prop :=
  ∀ rest, mapBlanks fill none (token ++ rest) = filled ++ mapBlanks fill none rest

/-- Filling a joined text fills its tokens one by one. -/
theorem fillsTo_intercalate {tokens filled : List (List Char)}
    (fills : List.Forall₂ (FillsTo fill) tokens filled) :
    FillsTo fill (List.intercalate [' '] tokens) (List.intercalate [' '] filled) := by
  induction fills with
  | nil => exact fun rest => rfl
  | @cons token image tokens images fillsFirst fillsRest inductionHypothesis =>
      intro rest
      cases fillsRest with
      | nil => simpa using fillsFirst rest
      | @cons second image₂ tokens images _ _ =>
          have spaced (rest : List Char) :
              mapBlanks fill none (' ' :: rest) = ' ' :: mapBlanks fill none rest :=
            @mapBlanks_plain fill [' '] (by simp [isQuote]) rest
          rw [List.intercalate_cons_cons, List.intercalate_cons_cons,
            List.append_assoc, List.append_assoc, fillsFirst, List.singleton_append,
            spaced, inductionHypothesis, List.append_assoc, List.append_assoc,
            List.singleton_append]

theorem mapBlanks_of_no_span {text : List Char} (noSpan : hasSpan text = false) :
    mapBlanks fill none text = text := by
  induction text with
  | nil => rfl
  | cons c rest inductionHypothesis =>
      simp only [hasSpan, Bool.or_eq_false_iff] at noSpan
      obtain ⟨noSpanHere, noSpanLater⟩ := noSpan
      rw [mapBlanks, noSpanHere, if_neg Bool.false_ne_true,
        inductionHypothesis noSpanLater]

/-- A filled content holds no blank, so a value in quotes is one token. -/
theorem fillBlanks_solid (solidFill : ∀ c, ∀ x ∈ fill c, Text.isBlank x = false)
    (content : List Char) :
    ∀ x ∈ fillBlanks fill content, Text.isBlank x = false := by
  intro x member
  obtain ⟨c, -, inside⟩ := List.mem_flatMap.mp member
  by_cases blank : Text.isBlank c = true
  · exact solidFill c x (by simpa [blank] using inside)
  · have same : x = c := by simpa [blank] using inside
    simpa [same] using blank

end Spans

namespace ReaderSettings

/-- A sentinel without a backslash stands for every blank of every span. -/
theorem escape_eq_mapBlanks {settings : ReaderSettings}
    (plain : '\\' ∉ settings.sentinel.toList) (text : List Char) :
    settings.escape text =
      .ok (Spans.mapBlanks (fun _ => settings.sentinel.toList) none text) := by
  unfold escape
  by_cases hasSpan : Spans.hasSpan text = true
  · simp [hasSpan, blankFill, plain]
  · have noSpan : Spans.hasSpan text = false := by simpa using hasSpan
    simp [noSpan, Spans.mapBlanks_of_no_span noSpan]

end ReaderSettings

/-! ## Unescaping a filled content -/

namespace Spans

variable {first : Char} {others : List Char}

/-- What a filled content begins with, up to the next sentinel, is what the content
itself begins with. -/
theorem prefix_of_prefix_fillBlanks {begin content : List Char}
    (absent : first ∉ begin)
    (begins : begin <+: fillBlanks (fun _ => first :: others) content) :
    begin <+: content := by
  induction begin generalizing content with
  | nil => exact List.nil_prefix
  | cons c rest inductionHypothesis =>
      have different : c ≠ first := by
        rintro rfl
        exact absent List.mem_cons_self
      have restAbsent : first ∉ rest := fun member =>
        absent (List.mem_cons_of_mem c member)
      cases content with
      | nil => simp [fillBlanks] at begins
      | cons d tail =>
          by_cases blank : Text.isBlank d = true
          · simp [fillBlanks, blank, List.cons_prefix_cons, different] at begins
          · simp only [fillBlanks, List.flatMap_cons, blank, Bool.false_eq_true,
              if_false, List.singleton_append, List.cons_prefix_cons] at begins
            obtain ⟨rfl, restBegins⟩ := begins
            exact List.cons_prefix_cons.mpr
              ⟨rfl, inductionHypothesis restAbsent restBegins⟩

end Spans

namespace ReaderSettings

/-- The beginning of a sentinel which, followed by a filled blank, would be taken for
a sentinel. -/
def sentinelStem : List Char := ['_', '%', '2', '0']

theorem sentinel_standard :
    ReaderSettings.standard.sentinel.toList = ['_', '%', '2', '0', '_'] := rfl

/-- Unescaping undoes filling if every blank is a space and the content does not hold
the beginning of a sentinel. -/
theorem unescape_fillBlanks {content : List Char}
    (spaces : ∀ c ∈ content, Text.isBlank c = true → c = ' ')
    (free : ¬ sentinelStem <:+: content) :
    standard.unescape
        (Spans.fillBlanks (fun _ => standard.sentinel.toList) content) =
      content := by
  unfold unescape Text.replaceAll
  induction content with
  | nil => rfl
  | cons c rest inductionHypothesis =>
      have restFree : ¬ sentinelStem <:+: rest := fun holds =>
        free (holds.trans (List.suffix_cons c rest).isInfix)
      have restUnescaped :=
        inductionHypothesis (fun x member =>
          spaces x (List.mem_cons_of_mem c member)) restFree
      by_cases blank : Text.isBlank c = true
      · have space : c = ' ' := spaces c List.mem_cons_self blank
        simp only [Spans.fillBlanks, List.flatMap_cons, blank, if_true,
          sentinel_standard, List.cons_append, List.nil_append] at restUnescaped ⊢
        simp [Text.replaceFrom, restUnescaped, space]
      · -- A sentinel that began here would end in the first character of a filled blank.
        have notHere :
            ¬ standard.sentinel.toList <+:
              c :: Spans.fillBlanks (fun _ => standard.sentinel.toList) rest := by
          rw [sentinel_standard, List.cons_prefix_cons]
          rintro ⟨rfl, restBegins⟩
          have stemBegins :
              ['%', '2', '0'] <+:
                Spans.fillBlanks (fun _ => ['_', '%', '2', '0', '_']) rest :=
            List.IsPrefix.trans ⟨['_'], rfl⟩ restBegins
          have restStem : ['%', '2', '0'] <+: rest :=
            Spans.prefix_of_prefix_fillBlanks (by decide) stemBegins
          exact free (List.cons_prefix_cons.mpr ⟨rfl, restStem⟩).isInfix
        have unfilled :
            Spans.fillBlanks (fun _ => standard.sentinel.toList) (c :: rest) =
              c :: Spans.fillBlanks (fun _ => standard.sentinel.toList) rest := by
          simp [Spans.fillBlanks, blank]
        rw [unfilled, Text.replaceFrom, if_neg (by simpa using notHere), restUnescaped]

/-- A text without the sentinel is not changed by unescaping. -/
theorem unescape_eq_self {settings : ReaderSettings} {text : List Char}
    (absent : ¬ settings.sentinel.toList <:+: text) :
    settings.unescape text = text :=
  Text.replaceAll_eq_self absent

end ReaderSettings

end CommandHost
