import CommandHost.Proofs.Command.Tokens
import Mathlib.Data.List.Infix
import Mathlib.Tactic.IntervalCases

/-!
# Taking the sentinel out again

Escaping writes the sentinel for each blank of a quoted span.  Unescaping goes through the
escaped text from left to right and puts a space in the place of each sentinel that it
meets.  In a text without the sentinel it meets those that were written, except where the
text itself holds the beginning of one:

* a sentinel that begins in the text and ends in a written one consists of a *stem*, which
  stands in the text, and of a part with which the sentinel both begins and ends;
* as long as no blank of a span stands behind a stem, every such blank becomes a space and
  nothing else changes;
* at the first blank behind a stem the text is changed, for a space comes out where the
  stem begins.

A sentinel that does not begin as it ends has no stems.  The standard one begins and ends
with the same character, so it has one stem, and what is written in quotes with that stem
in front of a space is not restored.
-/

namespace CommandHost

/-! ## Replacing what stands at the front -/

namespace Text

/-- A text that ends with none of its beginnings, but for nothing and the whole text. -/
def IsUnbordered (word : List Char) : Prop :=
  ∀ border, border <+: word → border <:+ word → border = [] ∨ border = word

instance (word : List Char) : Decidable (IsUnbordered word) :=
  decidable_of_iff
    (∀ border ∈ word.inits, border <:+ word → border = [] ∨ border = word)
    (by simp [IsUnbordered, List.mem_inits])

variable {old new : List Char}

theorem replaceFrom_append (passed rest : List Char) :
    replaceFrom old new passed.length (passed ++ rest) = replaceFrom old new 0 rest := by
  induction passed with
  | nil => rfl
  | cons c tail inductionHypothesis => exact inductionHypothesis

theorem replaceAll_append_self (nonempty : old ≠ []) (rest : List Char) :
    replaceAll old new (old ++ rest) = new ++ replaceAll old new rest := by
  cases old with
  | nil => exact absurd rfl nonempty
  | cons first others =>
      have begins : (first :: others).isPrefixOf (first :: (others ++ rest)) = true := by
        simp
      have passed : (first :: others).length - 1 = others.length := rfl
      rw [replaceAll, List.cons_append, replaceFrom, if_pos begins, passed,
        replaceFrom_append, replaceAll]

theorem replaceAll_cons {c : Char} {rest : List Char} (notHere : ¬ old <+: c :: rest) :
    replaceAll old new (c :: rest) = c :: replaceAll old new rest := by
  rw [replaceAll, replaceFrom, if_neg (by simpa using notHere), replaceAll]

/-- Where a word begins that is replaced by a space, its first character is gone. -/
theorem replaceAll_ne_cons (isWord : IsWord old) {c : Char} {rest : List Char}
    (begins : old <+: c :: rest) (others : List Char) :
    replaceAll old [' '] (c :: rest) ≠ c :: others := by
  obtain ⟨tail, whole⟩ := begins
  have first : c ∈ old := by
    cases old with
    | nil => exact absurd rfl isWord.1
    | cons first inner =>
        rw [← (List.cons.inj whole).1]
        exact List.mem_cons_self
  rw [← whole, replaceAll_append_self isWord.1, List.singleton_append]
  intro same
  have solid := isWord.2 c first
  rw [← (List.cons.inj same).1] at solid
  exact absurd solid (by decide)

end Text

/-! ## Stems -/

namespace Spans

/-- A beginning of the sentinel that, with another sentinel behind it, makes a sentinel. -/
def IsStem (sentinel stem : List Char) : Prop :=
  stem ≠ [] ∧ ∃ border, border ≠ [] ∧ border <+: sentinel ∧ sentinel = stem ++ border

theorem not_isStem_of_unbordered {sentinel : List Char}
    (unbordered : Text.IsUnbordered sentinel) (stem : List Char) :
    ¬ IsStem sentinel stem := by
  rintro ⟨nonempty, border, borderNonempty, begins, whole⟩
  have ends : border <:+ sentinel := ⟨stem, whole.symm⟩
  rcases unbordered border begins ends with empty | same
  · exact borderNonempty empty
  · rw [same] at whole
    exact nonempty (List.self_eq_append_left.mp whole)

theorem isStem_standard_iff (stem : List Char) :
    IsStem ReaderSettings.standard.sentinel.toList stem ↔
      stem = ReaderSettings.sentinelStem := by
  rw [ReaderSettings.sentinel_standard]
  constructor
  · rintro ⟨nonempty, border, borderNonempty, begins, whole⟩
    have isTake : stem = List.take stem.length ['_', '%', '2', '0', '_'] := by
      rw [whole, List.take_left]
    have isDrop : border = List.drop stem.length ['_', '%', '2', '0', '_'] := by
      rw [whole, List.drop_left]
    have total := congrArg List.length whole
    have positive := List.length_pos_iff.mpr nonempty
    have borderPositive := List.length_pos_iff.mpr borderNonempty
    rw [List.length_append] at total
    rw [isDrop] at begins
    rw [isTake]
    generalize stem.length = size at *
    have bound : size < 5 := by
      simp only [List.length_cons, List.length_nil] at total
      omega
    -- Of the four ways to cut the sentinel in two, the last has a border behind it.
    interval_cases size
    · exact absurd begins (by decide)
    · exact absurd begins (by decide)
    · exact absurd begins (by decide)
    · rfl
  · rintro rfl
    exact ⟨by decide, ['_'], by decide, by decide, rfl⟩

/-! ## Blanks of spans -/

namespace Letter

/-- Whether a letter is a blank that stands in a span. -/
def isKeptBlank (letter : Letter) : Bool := letter.inSpan && Text.isBlank letter.char

/-- A letter with a space in the place of a blank of a span. -/
def spaced (letter : Letter) : Char := if letter.isKeptBlank then ' ' else letter.char

variable {letter : Letter} {sentinel : List Char}

theorem written_of_kept (kept : letter.isKeptBlank = true) :
    letter.written sentinel = sentinel := if_pos kept

theorem written_of_not_kept (loose : letter.isKeptBlank = false) :
    letter.written sentinel = [letter.char] := if_neg (by simpa [isKeptBlank] using loose)

theorem spaced_of_kept (kept : letter.isKeptBlank = true) : letter.spaced = ' ' := if_pos kept

theorem spaced_of_not_kept (loose : letter.isKeptBlank = false) :
    letter.spaced = letter.char := if_neg (by simp [loose])

end Letter

theorem Scan.map_char {text : List Char} {letters : List Letter} (scan : Scan text letters) :
    letters.map Letter.char = text := by
  induction scan with
  | nil => rfl
  | loose _ _ inductionHypothesis => simp [inductionHypothesis]
  | span _ _ _ inductionHypothesis => simp [inductionHypothesis, Function.comp_def]

/-- The letters begin with a text behind which a blank of a span stands. -/
def Leads (stem : List Char) (letters : List Letter) : Prop :=
  ∃ word blank after, letters = word ++ blank :: after ∧ word.map Letter.char = stem ∧
    blank.isKeptBlank = true

/-- Somewhere a blank of a span stands directly behind a text. -/
def BlankBehind (stem : List Char) (letters : List Letter) : Prop :=
  ∃ before rest, letters = before ++ rest ∧ Leads stem rest

theorem blankBehind_cons_iff {stem : List Char} {letter : Letter} {letters : List Letter} :
    BlankBehind stem (letter :: letters) ↔
      Leads stem (letter :: letters) ∨ BlankBehind stem letters := by
  constructor
  · rintro ⟨before, rest, whole, leads⟩
    cases before with
    | nil =>
        rw [whole]
        exact .inl leads
    | cons first others => exact .inr ⟨others, rest, (List.cons.inj whole).2, leads⟩
  · rintro (leads | ⟨before, rest, whole, leads⟩)
    · exact ⟨[], _, rfl, leads⟩
    · exact ⟨letter :: before, rest, congrArg _ whole, leads⟩

/-! ## Sentinels in a written text -/

variable {sentinel : List Char}

/-- What a written text begins with, if it is not longer than the sentinel, the text itself
begins with, or it reaches into the first sentinel that was written. -/
theorem prefix_of_prefix_written {begin : List Char} {letters : List Letter}
    (short : begin.length ≤ sentinel.length)
    (begins : begin <+: letters.flatMap (Letter.written sentinel)) :
    begin <+: letters.map Letter.char ∨
      ∃ stem border, Leads stem letters ∧ border ≠ [] ∧ border <+: sentinel ∧
        begin = stem ++ border := by
  induction letters generalizing begin with
  | nil => exact .inl begins
  | cons letter letters inductionHypothesis =>
      rw [List.flatMap_cons] at begins
      cases kept : letter.isKeptBlank with
      | true =>
          rw [Letter.written_of_kept kept] at begins
          have inSentinel : begin <+: sentinel :=
            List.prefix_of_prefix_length_le begins (List.prefix_append _ _) short
          by_cases empty : begin = []
          · exact .inl (empty ▸ List.nil_prefix)
          · exact .inr
              ⟨[], begin, ⟨[], letter, letters, rfl, rfl, kept⟩, empty, inSentinel, rfl⟩
      | false =>
          rw [Letter.written_of_not_kept kept, List.singleton_append] at begins
          cases begin with
          | nil => exact .inl List.nil_prefix
          | cons c others =>
              rcases List.cons_prefix_cons.mp begins with ⟨rfl, othersBegin⟩
              have othersShort : others.length ≤ sentinel.length :=
                (Nat.le_succ _).trans short
              rcases inductionHypothesis othersShort othersBegin with inText |
                ⟨_, border, ⟨word, blank, after, rfl, rfl, blankKept⟩, nonempty,
                  inSentinel, rfl⟩
              · exact .inl (List.cons_prefix_cons.mpr ⟨rfl, inText⟩)
              · exact .inr
                  ⟨_, border, ⟨letter :: word, blank, after, rfl, rfl, blankKept⟩,
                    nonempty, inSentinel, rfl⟩

section Unescaping

variable (isWord : Text.IsWord sentinel)

include isWord

/-- A sentinel holds no blanks, so neither does what it begins with. -/
theorem written_of_prefix {word : List Letter} (begins : word.map Letter.char <+: sentinel) :
    word.flatMap (Letter.written sentinel) = word.map Letter.char := by
  have unchanged : ∀ letter ∈ word, letter.written sentinel = [letter.char] := by
    intro letter member
    apply Letter.written_of_not_kept
    have solid := isWord.2 letter.char (begins.subset (List.mem_map_of_mem member))
    simp [Letter.isKeptBlank, solid]
  rw [List.flatMap_congr unchanged, List.map_eq_flatMap]

theorem not_leads_of_kept {stem : List Char} (isStem : IsStem sentinel stem)
    {letter : Letter} (kept : letter.isKeptBlank = true) (letters : List Letter) :
    ¬ Leads stem (letter :: letters) := by
  rintro ⟨word, blank, after, whole, rfl, -⟩
  obtain ⟨nonempty, border, -, -, parts⟩ := isStem
  cases word with
  | nil => exact nonempty rfl
  | cons first others =>
      have same : letter = first := (List.cons.inj whole).1
      have solid : Text.isBlank letter.char = false :=
        isWord.2 letter.char (by rw [parts, same]; simp)
      simp [Letter.isKeptBlank, solid] at kept

/-- Where the text does not have a blank of a span, a written text begins with the sentinel
exactly if the text begins with a stem and such a blank behind it. -/
theorem prefix_written_iff {letter : Letter} {letters : List Letter}
    (loose : letter.isKeptBlank = false)
    (absent : ¬ sentinel <:+: (letter :: letters).map Letter.char) :
    sentinel <+: (letter :: letters).flatMap (Letter.written sentinel) ↔
      ∃ stem, IsStem sentinel stem ∧ Leads stem (letter :: letters) := by
  constructor
  · intro begins
    rcases prefix_of_prefix_written le_rfl begins with inText |
      ⟨stem, border, leads, nonempty, inSentinel, parts⟩
    · exact absurd inText.isInfix absent
    · refine ⟨stem, ⟨?_, border, nonempty, inSentinel, parts⟩, leads⟩
      rintro rfl
      obtain ⟨word, blank, after, whole, empty, kept⟩ := leads
      rw [List.map_eq_nil_iff.mp empty] at whole
      rw [← (List.cons.inj whole).1, loose] at kept
      exact absurd kept (by decide)
  · rintro ⟨_, ⟨-, border, -, inSentinel, parts⟩, word, blank, after, whole, rfl, kept⟩
    rw [whole, List.flatMap_append, List.flatMap_cons, Letter.written_of_kept kept,
      written_of_prefix isWord ⟨border, parts.symm⟩]
    nth_rewrite 1 [parts]
    apply (List.prefix_append_right_inj _).mpr
    exact inSentinel.trans (List.prefix_append _ _)

/-- Unescaping restores a written text, up to the kind of its blanks, exactly if no blank
of a span stands behind a stem. -/
theorem replaceAll_written_iff {letters : List Letter}
    (absent : ¬ sentinel <:+: letters.map Letter.char) :
    Text.replaceAll sentinel [' '] (letters.flatMap (Letter.written sentinel)) =
        letters.map Letter.spaced ↔
      ∀ stem, IsStem sentinel stem → ¬ BlankBehind stem letters := by
  induction letters with
  | nil => simp [Text.replaceAll, Text.replaceFrom, BlankBehind, Leads]
  | cons letter letters inductionHypothesis =>
      have later := inductionHypothesis fun holds =>
        absent (holds.trans (List.suffix_cons letter.char _).isInfix)
      -- A letter at which no stem leads has no part in the condition.
      have passes (notHere : ¬ ∃ stem, IsStem sentinel stem ∧ Leads stem (letter :: letters)) :
          (∀ stem, IsStem sentinel stem → ¬ BlankBehind stem letters) ↔
            ∀ stem, IsStem sentinel stem → ¬ BlankBehind stem (letter :: letters) := by
        refine forall₂_congr fun stem isStem => not_congr ?_
        rw [blankBehind_cons_iff]
        exact (or_iff_right fun leads => notHere ⟨stem, isStem, leads⟩).symm
      cases kept : letter.isKeptBlank with
      | true =>
          rw [List.flatMap_cons, Letter.written_of_kept kept,
            Text.replaceAll_append_self isWord.1, List.map_cons,
            Letter.spaced_of_kept kept, List.singleton_append, List.cons.injEq,
            eq_self_iff_true, true_and, later]
          apply passes
          rintro ⟨stem, isStem, leads⟩
          exact not_leads_of_kept isWord isStem kept letters leads
      | false =>
          have here := prefix_written_iff isWord kept absent
          rw [List.map_cons, Letter.spaced_of_not_kept kept]
          by_cases misread :
              sentinel <+: (letter :: letters).flatMap (Letter.written sentinel)
          · obtain ⟨stem, isStem, leads⟩ := here.mp misread
            rw [List.flatMap_cons, Letter.written_of_not_kept kept,
              List.singleton_append] at misread ⊢
            apply iff_of_false (Text.replaceAll_ne_cons isWord misread _)
            intro never
            exact never stem isStem (blankBehind_cons_iff.mpr (.inl leads))
          · rw [here] at misread
            rw [← passes misread, ← later]
            rw [← here, List.flatMap_cons, Letter.written_of_not_kept kept,
              List.singleton_append] at misread
            rw [List.flatMap_cons, Letter.written_of_not_kept kept, List.singleton_append,
              Text.replaceAll_cons misread, List.cons.injEq, eq_self_iff_true, true_and]

end Unescaping

end Spans

/-! ## Escaping undone -/

namespace ReaderSettings

theorem isWord_sentinel_standard : Text.IsWord standard.sentinel.toList :=
  ⟨by decide, Text.forall_mem_of_all (by decide)⟩

/-- Under a sentinel without stems, what was escaped is restored with spaces for the blanks
of its spans. -/
theorem unescape_escape {chosen settings : ReaderSettings} {sentinel : String}
    (accepted : chosen.setSentinel (.text sentinel) = .ok settings)
    (plain : '\\' ∉ sentinel.toList) (unbordered : Text.IsUnbordered sentinel.toList)
    {text : List Char} (absent : ¬ sentinel.toList <:+: text) :
    ∃ letters escaped,
      Spans.Scan text letters ∧ (∀ others, Spans.Scan text others → others = letters) ∧
      settings.escape text = .ok escaped ∧
      settings.unescape escaped = letters.map Spans.Letter.spaced := by
  obtain ⟨rfl, isWord⟩ := isWord_of_setSentinel accepted
  obtain ⟨letters, scan⟩ := Spans.exists_scan text
  refine ⟨letters, _, scan, fun others other => scan.unique other,
    escape_eq_mapBlanks plain text, ?_⟩
  rw [scan.mapBlanks_eq, unescape]
  apply (Spans.replaceAll_written_iff isWord _).mpr
  · intro stem isStem
    exact absurd isStem (Spans.not_isStem_of_unbordered unbordered stem)
  · rwa [scan.map_char]

/-- Spans of both quotes with blanks of several kinds, next to each other and to pieces of
the sentinel, which holds a quote itself. -/
theorem unescape_escape_splinters :
    let text := "say \"%2 \t%2'0\u00a0;\" %2'  '0; don't".toList
    let settings : ReaderSettings := ⟨"#", "%2'0;"⟩
    ReaderSettings.standard.setSentinel (.text "%2'0;") = .ok settings ∧
      '\\' ∉ "%2'0;".toList ∧ Text.IsUnbordered "%2'0;".toList ∧
      ¬ "%2'0;".toList <:+: text ∧
      ∃ letters escaped,
        Spans.Scan text letters ∧ (∀ others, Spans.Scan text others → others = letters) ∧
        settings.escape text = .ok escaped ∧
        settings.unescape escaped = letters.map Spans.Letter.spaced ∧
        settings.unescape escaped = "say \"%2  %2'0 ;\" %2'  '0; don't".toList := by
  intro text settings
  have accepted : ReaderSettings.standard.setSentinel (.text "%2'0;") = .ok settings := rfl
  have plain : '\\' ∉ "%2'0;".toList := by decide
  have unbordered : Text.IsUnbordered "%2'0;".toList := by decide
  have absent : ¬ "%2'0;".toList <:+: text := by decide
  obtain ⟨letters, escaped, scan, unique, escapes, restored⟩ :=
    unescape_escape accepted plain unbordered absent
  refine ⟨accepted, plain, unbordered, absent, letters, escaped, scan, unique, escapes,
    restored, ?_⟩
  cases escapes.symm.trans (escape_eq_mapBlanks plain text)
  decide +kernel

/-- With the standard sentinel, a text without it whose spans have no blanks but spaces is
restored exactly if none of these spaces stands behind the stem. -/
theorem unescape_escape_standard_iff {text : List Char} {letters : List Spans.Letter}
    (scan : Spans.Scan text letters) (absent : ¬ standard.sentinel.toList <:+: text)
    (spaces : ∀ letter ∈ letters, letter.isKeptBlank = true → letter.char = ' ') :
    ∃ escaped, standard.escape text = .ok escaped ∧
      (standard.unescape escaped = text ↔ ¬ Spans.BlankBehind sentinelStem letters) := by
  refine ⟨_, escape_eq_mapBlanks (by decide) text, ?_⟩
  have unchanged : letters.map Spans.Letter.spaced = text := by
    rw [← scan.map_char]
    apply List.map_congr_left
    intro letter member
    cases kept : letter.isKeptBlank with
    | true => rw [Spans.Letter.spaced_of_kept kept, spaces letter member kept]
    | false => exact Spans.Letter.spaced_of_not_kept kept
  have restored :=
    Spans.replaceAll_written_iff isWord_sentinel_standard (by rwa [scan.map_char])
  rw [unchanged] at restored
  rw [scan.mapBlanks_eq, unescape, restored]
  simp only [Spans.isStem_standard_iff, forall_eq]

/-- A stem in front of the end of a span, one in front of a space outside of spans, and
pieces of a stem in front of spaces inside. -/
theorem unescape_escape_standard_apart :
    let text := "\"_%20\" _%20 '_%2 0 _' don't".toList
    ¬ standard.sentinel.toList <:+: text ∧
      ∃ letters escaped,
        Spans.Scan text letters ∧
        (∀ letter ∈ letters, letter.isKeptBlank = true → letter.char = ' ') ∧
        standard.escape text = .ok escaped ∧ standard.unescape escaped = text ∧
        ¬ Spans.BlankBehind sentinelStem letters := by
  intro text
  have absent : ¬ standard.sentinel.toList <:+: text := by decide
  obtain ⟨letters, scan⟩ := Spans.exists_scan text
  have spaces : ∀ letter ∈ letters, letter.isKeptBlank = true → letter.char = ' ' := by
    have inText : ∀ c ∈ text, Text.isBlank c = true → c = ' ' :=
      Text.forall_mem_of_all (by decide)
    intro letter member kept
    apply inText letter.char
    · rw [← scan.map_char]
      exact List.mem_map_of_mem member
    · exact (Bool.and_eq_true_iff.mp kept).2
  obtain ⟨escaped, escapes, restored⟩ := unescape_escape_standard_iff scan absent spaces
  have same : standard.unescape escaped = text := by
    cases escapes.symm.trans (escape_eq_mapBlanks (by decide) text)
    decide +kernel
  exact ⟨absent, letters, escaped, scan, spaces, escapes, same, restored.mp same⟩

/-- A stem in front of a space: what comes out has the space in front. -/
theorem stem_not_restored :
    let text := "\"_%20 \"".toList
    let letters : List Spans.Letter := text.map (⟨·, true⟩)
    Spans.Scan text letters ∧ ¬ standard.sentinel.toList <:+: text ∧
      (∀ letter ∈ letters, letter.isKeptBlank = true → letter.char = ' ') ∧
      ∃ escaped, standard.escape text = .ok escaped ∧
        standard.unescape escaped = "\" %20_\"".toList ∧
        standard.unescape escaped ≠ text := by
  intro text letters
  have span : Spans.Scan ('"' :: ("_%20 ".toList ++ '"' :: [])) letters :=
    .span rfl (by decide) .nil
  refine ⟨span, by decide, by decide, _, escape_eq_mapBlanks (by decide) text, ?_, ?_⟩
  · decide +kernel
  · decide +kernel

end ReaderSettings

end CommandHost
