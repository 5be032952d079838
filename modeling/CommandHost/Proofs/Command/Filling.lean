import CommandHost.Proofs.Command.Grammar
import CommandHost.Proofs.Command.Sentinel

/-!
# Filled words

Writing the sentinel for the blanks of spans fills the words of a text: each word is, as it
is read, the word as it is written with the sentinel for each of its blanks.  The grouping
of words looks at quotes and colons only, so filled words are grouped as they would be
without filling.  And what was unescaped holds no sentinel.
-/

namespace CommandHost

/-! ## What was replaced is gone -/

namespace Text

variable {old : List Char}

/-- What a replaced text begins with, if it has no spaces, the text began with before. -/
theorem prefix_of_prefix_replaceAll (nonempty : old ≠ []) {begin text : List Char}
    (spaceless : ' ' ∉ begin) (begins : begin <+: replaceAll old [' '] text) :
    begin <+: text := by
  induction text generalizing begin with
  | nil => exact begins
  | cons c rest inductionHypothesis =>
      cases begin with
      | nil => exact List.nil_prefix
      | cons first others =>
          by_cases here : old <+: c :: rest
          · obtain ⟨tail, whole⟩ := here
            rw [← whole, replaceAll_append_self nonempty, List.singleton_append] at begins
            have isSpace : first = ' ' := (List.cons_prefix_cons.mp begins).1
            exact absurd (isSpace ▸ List.mem_cons_self) spaceless
          · rw [replaceAll_cons here] at begins
            rcases List.cons_prefix_cons.mp begins with ⟨rfl, othersBegin⟩
            apply List.cons_prefix_cons.mpr ⟨rfl, inductionHypothesis ?_ othersBegin⟩
            exact fun member => spaceless (List.mem_cons_of_mem first member)

theorem space_not_mem (isWord : IsWord old) : ' ' ∉ old := by
  intro member
  exact absurd (isWord.2 ' ' member) (by decide)

theorem not_infix_replaceAll (isWord : IsWord old) (text : List Char) :
    ¬ old <:+: replaceAll old [' '] text := by
  -- On the length of the text, since behind an occurrence the replacing goes on further down.
  induction length : text.length using Nat.strong_induction_on generalizing text with
  | h bound inductionHypothesis =>
      cases text with
      | nil => exact fun holds => isWord.1 (List.infix_nil.mp holds)
      | cons c rest =>
          by_cases here : old <+: c :: rest
          · obtain ⟨tail, whole⟩ := here
            have positive := List.length_pos_iff.mpr isWord.1
            have shorter : tail.length < bound := by
              have total := congrArg List.length whole
              rw [List.length_append] at total
              omega
            rw [← whole, replaceAll_append_self isWord.1, List.singleton_append,
              List.infix_cons_iff]
            rintro (front | later)
            · cases old with
              | nil => exact isWord.1 rfl
              | cons first others =>
                  have isSpace : first = ' ' := (List.cons_prefix_cons.mp front).1
                  exact space_not_mem isWord (isSpace ▸ List.mem_cons_self)
            · exact inductionHypothesis _ shorter tail rfl later
          · rw [List.length_cons] at length
            rw [replaceAll_cons here, List.infix_cons_iff]
            rintro (front | later)
            · rw [← replaceAll_cons here] at front
              exact here (prefix_of_prefix_replaceAll isWord.1 (space_not_mem isWord) front)
            · exact inductionHypothesis rest.length (by omega) rest rfl later

end Text

/-! ## Words as they are written -/

namespace Spans

/-- The words that a scan tells, with the blanks of spans as they stand in the text. -/
def keptWords (letters : List Letter) : List (List Char) :=
  (pieces letters).map (List.map Letter.char)

theorem splitOnP_cuts (letters : List Letter) :
    (∀ piece ∈ (letters.splitOnP Letter.cuts).head?, piece <+: letters) ∧
      ∀ piece ∈ letters.splitOnP Letter.cuts,
        piece <:+: letters ∧ ∀ letter ∈ piece, letter.cuts = false := by
  induction letters with
  | nil => simp
  | cons letter letters inductionHypothesis =>
      obtain ⟨headPrefix, parts⟩ := inductionHypothesis
      have later : letters <:+: letter :: letters := (List.suffix_cons letter letters).isInfix
      rw [List.splitOnP_cons_eq_if_modifyHead]
      cases cut : letter.cuts with
      | true =>
          simp only [if_true, List.head?_cons, Option.mem_def, Option.some.injEq, forall_eq',
            List.nil_prefix, List.forall_mem_cons, true_and]
          refine ⟨⟨List.nil_infix, by simp⟩, fun piece member => ?_⟩
          exact ⟨(parts piece member).1.trans later, (parts piece member).2⟩
      | false =>
          obtain ⟨first, others, split⟩ :=
            List.exists_cons_of_ne_nil (List.splitOnP_ne_nil Letter.cuts letters)
          rw [split] at headPrefix parts ⊢
          obtain ⟨⟨-, firstWhole⟩, othersParts⟩ := List.forall_mem_cons.mp parts
          have longer : letter :: first <+: letter :: letters :=
            List.cons_prefix_cons.mpr ⟨rfl, headPrefix first rfl⟩
          rw [if_neg Bool.false_ne_true, List.modifyHead_cons]
          refine ⟨by simpa using longer, List.forall_mem_cons.mpr ⟨⟨longer.isInfix, ?_⟩, ?_⟩⟩
          · exact List.forall_mem_cons.mpr ⟨cut, firstWhole⟩
          · intro piece member
            exact ⟨(othersParts piece member).1.trans later, (othersParts piece member).2⟩

theorem isInfix_of_mem_keptWords {letters : List Letter} {word : List Char}
    (member : word ∈ keptWords letters) : word <:+: letters.map Letter.char := by
  obtain ⟨piece, inPieces, rfl⟩ := List.mem_map.mp member
  have inSplit := (List.mem_filter.mp inPieces).1
  exact ((splitOnP_cuts letters).2 piece inSplit).1.map Letter.char

/-- In a piece all blanks are blanks of spans. -/
theorem written_piece (sentinel : List Char) {letters piece : List Letter}
    (member : piece ∈ pieces letters) :
    piece.flatMap (Letter.written sentinel) =
      fillBlanks (fun _ => sentinel) (piece.map Letter.char) := by
  have inSplit := (List.mem_filter.mp member).1
  have whole := ((splitOnP_cuts letters).2 piece inSplit).2
  rw [fillBlanks, List.flatMap_map]
  apply List.flatMap_congr
  intro letter inPiece
  have kept := whole letter inPiece
  rw [Letter.cuts] at kept
  cases inSpan : letter.inSpan <;> simp_all [Letter.written]

theorem words_written_eq {sentinel : List Char} (isWord : Text.IsWord sentinel)
    (letters : List Letter) :
    Text.words (letters.flatMap (Letter.written sentinel)) =
      (keptWords letters).map (fillBlanks fun _ => sentinel) := by
  rw [words_written isWord, keptWords, List.map_map]
  exact List.map_congr_left fun piece member => written_piece sentinel member

/-! ## Filled words -/

section Filled

variable {sentinel word : List Char}

theorem fillBlanks_eq_self {fill : Char → List Char}
    (solid : ∀ c ∈ word, Text.isBlank c = false) : fillBlanks fill word = word := by
  have unchanged : ∀ c ∈ word, (if Text.isBlank c then fill c else [c]) = [c] := by
    intro c member
    rw [solid c member, if_neg Bool.false_ne_true]
  rw [fillBlanks, List.flatMap_congr unchanged, List.flatMap_singleton']

theorem infix_fillBlanks_of_blank {c : Char} (member : c ∈ word)
    (blank : Text.isBlank c = true) : sentinel <:+: fillBlanks (fun _ => sentinel) word := by
  obtain ⟨before, after, rfl⟩ := List.append_of_mem member
  rw [fillBlanks, List.flatMap_append, List.flatMap_cons, if_pos blank]
  exact ⟨_, _, List.append_assoc _ _ _⟩

/-- A word without the sentinel has it after filling exactly if it has a blank. -/
theorem not_infix_fillBlanks_iff (absent : ¬ sentinel <:+: word) :
    ¬ sentinel <:+: fillBlanks (fun _ => sentinel) word ↔
      ∀ c ∈ word, Text.isBlank c = false := by
  constructor
  · intro free c member
    cases blank : Text.isBlank c with
    | false => rfl
    | true => exact absurd (infix_fillBlanks_of_blank member blank) free
  · intro solid
    rwa [fillBlanks_eq_self solid]

end Filled

end Spans

/-! ## Grouping words that were changed -/

namespace RichDialect

open ReaderSettings (standard)

/-- An item with each of its words changed. -/
def Item.map (change : List Char → List Char) : Item → Item
  | quoted words => quoted (words.map change)
  | named key value => named (change key) (change value)
  | bare word => bare (change word)

/-- A change of words that leaves alone what the grouping looks at: the quote with which a
word begins, the quote with which it ends, and its first colon. -/
structure KeepsMarks (change : List Char → List Char) : Prop where
  opens : ∀ word, (change word).head?.filter isQuote = word.head?.filter isQuote
  ends : ∀ word quote, isQuote quote = true →
    ((change word).getLast? = some quote ↔ word.getLast? = some quote)
  closes : ∀ word quote, word.head?.filter isQuote = some quote →
    (1 < (change word).length ∧ (change word).getLast? = some quote ↔
      1 < word.length ∧ word.getLast? = some quote)
  cuts : ∀ word, Text.cutAtFirst? nameMark (change word) =
    (Text.cutAtFirst? nameMark word).map (Prod.map change change)

namespace KeepsMarks

variable {change : List Char → List Char} (keeps : KeepsMarks change)

include keeps

theorem cutBehind?_map {quote : Char} (quotes : isQuote quote = true)
    (words : List (List Char)) :
    cutBehind? quote (words.map change) =
      (cutBehind? quote words).map (Prod.map (List.map change) (List.map change)) := by
  induction words with
  | nil => rfl
  | cons word rest inductionHypothesis =>
      rw [List.map_cons, cutBehind?, cutBehind?, inductionHypothesis]
      by_cases last : word.getLast? = some quote
      · rw [if_pos last, if_pos ((keeps.ends word quote quotes).mpr last)]
        rfl
      · rw [if_neg last, if_neg (mt (keeps.ends word quote quotes).mp last)]
        cases cutBehind? quote rest <;> rfl

theorem group_map (words : List (List Char)) :
    Item.group (words.map change) =
      ((Item.group words).map (List.map (Item.map change))).mapError (List.map change) := by
  induction words using Item.group.induct with
  | case1 =>
      rw [List.map_nil, Item.group]
      rfl
  | case2 word rest quote opens closes inductionHypothesis =>
      have opensStill := (keeps.opens word).trans opens
      have closesStill := (keeps.closes word quote opens).mpr closes
      rw [List.map_cons, Item.group_closed opensStill closesStill,
        Item.group_closed opens closes, inductionHypothesis]
      cases Item.group rest <;> rfl
  | case3 word rest quote opens goesOn uncut =>
      have opensStill := (keeps.opens word).trans opens
      have goesOnStill := mt (keeps.closes word quote opens).mp goesOn
      have uncutStill := keeps.cutBehind?_map (head_eq_of_opens opens).1 rest
      rw [uncut] at uncutStill
      rw [List.map_cons, Item.group_unclosed opensStill goesOnStill uncutStill,
        Item.group_unclosed opens goesOn uncut]
      rfl
  | case4 word rest quote opens goesOn inside after cut inductionHypothesis =>
      have opensStill := (keeps.opens word).trans opens
      have goesOnStill := mt (keeps.closes word quote opens).mp goesOn
      have cutStill := keeps.cutBehind?_map (head_eq_of_opens opens).1 rest
      rw [cut] at cutStill
      rw [List.map_cons, Item.group_spanning opensStill goesOnStill cutStill,
        Item.group_spanning opens goesOn cut, inductionHypothesis]
      cases Item.group after <;> rfl
  | case5 word rest loose name value cut inductionHypothesis =>
      have looseStill := (keeps.opens word).trans loose
      have cutStill := keeps.cuts word
      rw [cut] at cutStill
      rw [List.map_cons, Item.group_named looseStill cutStill, Item.group_named loose cut,
        inductionHypothesis]
      cases Item.group rest <;> rfl
  | case6 word rest loose uncut inductionHypothesis =>
      have looseStill := (keeps.opens word).trans loose
      have uncutStill := keeps.cuts word
      rw [uncut] at uncutStill
      rw [List.map_cons, Item.group_bare looseStill uncutStill, Item.group_bare loose uncut,
        inductionHypothesis]
      cases Item.group rest <;> rfl

end KeepsMarks

/-! ## Filling keeps the marks -/

/-- A word with the standard sentinel in the place of its blanks. -/
abbrev filled (word : List Char) : List Char := Spans.fillBlanks standardFill word

theorem filled_cons (c : Char) (rest : List Char) :
    filled (c :: rest) =
      (if Text.isBlank c then standard.sentinel.toList else [c]) ++ filled rest := rfl

theorem filled_append (first second : List Char) :
    filled (first ++ second) = filled first ++ filled second := List.flatMap_append

theorem not_isQuote_of_isBlank {c : Char} (blank : Text.isBlank c = true) :
    isQuote c = false := by
  cases quotes : isQuote c with
  | false => rfl
  | true => exact absurd (Spans.isBlank_of_isQuote quotes) (by simp [blank])

theorem opens_filled (word : List Char) :
    (filled word).head?.filter isQuote = word.head?.filter isQuote := by
  cases word with
  | nil => rfl
  | cons c rest =>
      rw [filled_cons]
      cases blank : Text.isBlank c with
      | false => rfl
      | true =>
          have begins : Option.filter isQuote (some '_') = Option.filter isQuote (some c) := by
            rw [Option.filter_some, Option.filter_some, not_isQuote_of_isBlank blank]
            rfl
          exact begins

theorem getLast?_filled_iff {quote : Char} (quotes : isQuote quote = true)
    (word : List Char) : (filled word).getLast? = some quote ↔ word.getLast? = some quote := by
  rcases List.eq_nil_or_concat word with rfl | ⟨front, last, rfl⟩
  · exact Iff.rfl
  · rw [List.concat_eq_append, filled_append, List.getLast?_append, List.getLast?_append,
      List.getLast?_singleton, filled_cons]
    cases blank : Text.isBlank last with
    | false => exact Iff.rfl
    | true =>
        have different : last ≠ quote := by
          rintro rfl
          rw [not_isQuote_of_isBlank blank] at quotes
          exact absurd quotes (by decide)
        have otherEnd : '_' ≠ quote := by
          rintro rfl
          exact absurd quotes (by decide)
        have lastFilled : (standard.sentinel.toList ++ filled []).getLast? = some '_' := rfl
        simp [lastFilled, different, otherEnd]

theorem cutAtFirst?_filled (word : List Char) :
    Text.cutAtFirst? nameMark (filled word) =
      (Text.cutAtFirst? nameMark word).map (Prod.map filled filled) := by
  induction word with
  | nil => rfl
  | cons c rest inductionHypothesis =>
      by_cases isMark : c = nameMark
      · rw [filled_cons, isMark]
        rfl
      · have absent :
            nameMark ∉ (if Text.isBlank c then standard.sentinel.toList else [c]) := by
          split
          · decide
          · simpa using Ne.symm isMark
        rw [filled_cons, Text.cutAtFirst?_append absent, inductionHypothesis, Text.cutAtFirst?,
          if_neg isMark]
        cases Text.cutAtFirst? nameMark rest <;> rfl

theorem keepsMarks_filled : KeepsMarks filled where
  opens := opens_filled
  ends word quote quotes := getLast?_filled_iff quotes word
  closes word quote opens := by
    obtain ⟨quotes, letters, rfl⟩ := head_eq_of_opens opens
    have solid : Text.isBlank quote = false := Spans.isBlank_of_isQuote quotes
    rw [filled_cons, solid, if_neg Bool.false_ne_true, List.singleton_append,
      closes_cons_iff, closes_cons_iff]
    exact getLast?_filled_iff quotes letters
  cuts := cutAtFirst?_filled

end RichDialect

end CommandHost
