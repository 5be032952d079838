import CommandHost.Proofs.Command.Escaping

/-!
# Words and quoted spans

A reader that knows about quotes would scan a text from left to right, note which
characters stand in quoted spans, and cut the text at the blanks that stand in none.
`Scan` is this scan and `pieces` the cut.  Escaping a text and then cutting it at all its
blanks, without another look at its quotes, gives the same pieces, with the sentinel in
the place of every blank that was kept.

The scan is a relation, with one rule for a span and one for a character outside of
spans.  That every text can be scanned, and in one way only, is proved first.
-/

namespace CommandHost

namespace Spans

/-- A character of a text, with whether it stands in a quoted span.  The quotes of a span
belong to it. -/
structure Letter where
  char : Char
  inSpan : Bool
  deriving DecidableEq, Repr

/-- The scan of a text from left to right.  A quote opens a span that reaches to the next
occurrence of the same quote; without one it is a character like any other. -/
inductive Scan : List Char → List Letter → Prop where
  | nil : Scan [] []
  | loose {c : Char} {rest : List Char} {letters : List Letter}
      (opensNothing : isQuote c = true → c ∉ rest) (later : Scan rest letters) :
      Scan (c :: rest) (⟨c, false⟩ :: letters)
  | span {quote : Char} {content rest : List Char} {letters : List Letter}
      (quotes : isQuote quote = true) (absent : quote ∉ content)
      (later : Scan rest letters) :
      Scan (quote :: (content ++ quote :: rest))
        (⟨quote, true⟩ :: (content.map (⟨·, true⟩) ++ ⟨quote, true⟩ :: letters))

namespace Letter

/-- Whether a text is cut at a character. -/
def cuts (letter : Letter) : Bool := !letter.inSpan && Text.isBlank letter.char

/-- How a character that was kept is written: a blank of a span by the sentinel. -/
def written (sentinel : List Char) (letter : Letter) : List Char :=
  if letter.inSpan && Text.isBlank letter.char then sentinel else [letter.char]

end Letter

/-- What lies between the blanks outside of spans, without empty pieces. -/
def pieces (letters : List Letter) : List (List Letter) :=
  (letters.splitOnP Letter.cuts).filter fun piece => !piece.isEmpty

/-! ## Every text has one scan -/

theorem exists_scan (text : List Char) : ∃ letters, Scan text letters := by
  -- On the length of the text, since behind a span the scan goes on further down.
  induction length : text.length using Nat.strong_induction_on generalizing text with
  | h bound inductionHypothesis =>
      cases text with
      | nil => exact ⟨[], .nil⟩
      | cons c rest =>
          rw [List.length_cons] at length
          by_cases opens : isQuote c = true ∧ c ∈ rest
          · obtain ⟨content, after, rfl, absent⟩ := List.eq_append_cons_of_mem opens.2
            rw [List.length_append, List.length_cons] at length
            obtain ⟨letters, later⟩ :=
              inductionHypothesis after.length (by omega) after rfl
            exact ⟨_, .span opens.1 absent later⟩
          · obtain ⟨letters, later⟩ :=
              inductionHypothesis rest.length (by omega) rest rfl
            exact ⟨_, .loose (fun quotes member => opens ⟨quotes, member⟩) later⟩

/-- What stands in front of the first occurrence of a quote is determined. -/
theorem append_quote_inj {quote : Char} {content other rest after : List Char}
    (absent : quote ∉ content) (otherAbsent : quote ∉ other)
    (same : content ++ quote :: rest = other ++ quote :: after) :
    content = other ∧ rest = after := by
  induction content generalizing other with
  | nil =>
      cases other with
      | nil => exact ⟨rfl, (List.cons.inj same).2⟩
      | cons c others =>
          have isQuote : quote = c := (List.cons.inj same).1
          exact absurd (isQuote ▸ List.mem_cons_self) otherAbsent
  | cons first content inductionHypothesis =>
      cases other with
      | nil =>
          have isQuote : first = quote := (List.cons.inj same).1
          exact absurd (isQuote ▸ List.mem_cons_self) absent
      | cons c others =>
          obtain ⟨sameFirst, sameRest⟩ := List.cons.inj same
          obtain ⟨rfl, rfl⟩ :=
            inductionHypothesis (fun member => absent (List.mem_cons_of_mem _ member))
              (fun member => otherAbsent (List.mem_cons_of_mem _ member)) sameRest
          exact ⟨congrArg (· :: content) sameFirst, rfl⟩

theorem Scan.unique {text : List Char} {letters others : List Letter}
    (scan : Scan text letters) (other : Scan text others) : others = letters := by
  induction scan generalizing others with
  | nil =>
      cases other
      rfl
  | @loose c rest letters opensNothing _ inductionHypothesis =>
      generalize whole : c :: rest = text at other
      cases other with
      | nil => cases whole
      | loose _ later =>
          cases whole
          rw [inductionHypothesis later]
      | @span quote content after _ quotes _ _ =>
          obtain ⟨rfl, rfl⟩ := List.cons.inj whole
          exact absurd (List.mem_append_right content List.mem_cons_self)
            (opensNothing quotes)
  | @span quote content rest letters quotes absent _ inductionHypothesis =>
      generalize whole : quote :: (content ++ quote :: rest) = text at other
      cases other with
      | nil => cases whole
      | loose opensNothing _ =>
          obtain ⟨rfl, rfl⟩ := List.cons.inj whole
          exact absurd (List.mem_append_right content List.mem_cons_self)
            (opensNothing quotes)
      | @span _ content' after _ _ otherAbsent later =>
          obtain ⟨rfl, sameRest⟩ := List.cons.inj whole
          obtain ⟨rfl, rfl⟩ := append_quote_inj absent otherAbsent sameRest
          rw [inductionHypothesis later]

/-! ## Escaping by letters -/

theorem fillBlanks_eq_flatMap (sentinel content : List Char) :
    fillBlanks (fun _ => sentinel) content =
      (content.map (⟨·, true⟩)).flatMap (Letter.written sentinel) := by
  simp [fillBlanks, Letter.written, List.flatMap_map]

/-- Filling the blanks of a text writes the letters of its scan. -/
theorem Scan.mapBlanks_eq {text : List Char} {letters : List Letter}
    (scan : Scan text letters) (sentinel : List Char) :
    mapBlanks (fun _ => sentinel) none text =
      letters.flatMap (Letter.written sentinel) := by
  induction scan with
  | nil => rfl
  | @loose c rest letters opensNothing _ inductionHypothesis =>
      have goesOn : (isQuote c && rest.contains c) = false := by
        rw [Bool.and_eq_false_imp]
        intro quotes
        simpa using opensNothing quotes
      rw [mapBlanks, goesOn, List.flatMap_cons, ← inductionHypothesis]
      rfl
  | @span quote content rest letters quotes absent _ inductionHypothesis =>
      rw [mapBlanks_span quotes absent, fillBlanks_eq_flatMap, inductionHypothesis]
      simp [Letter.written, isBlank_of_isQuote quotes]

/-! ## Cutting by letters -/

theorem modifyHead_nil_append (parts : List (List Letter)) :
    parts.modifyHead ([] ++ ·) = parts := by
  cases parts <;> rfl

section Cutting

variable {sentinel : List Char} (isWord : Text.IsWord sentinel)

include isWord

/-- A letter at which a text is not cut is written as a word. -/
theorem Letter.isWord_written {letter : Letter} (kept : letter.cuts = false) :
    Text.IsWord (letter.written sentinel) := by
  by_cases filled : (letter.inSpan && Text.isBlank letter.char) = true
  · rw [written, if_pos filled]
    exact isWord
  · have solid : Text.isBlank letter.char = false := by
      rw [cuts] at kept
      cases blank : Text.isBlank letter.char with
      | false => rfl
      | true => simp_all
    rw [written, if_neg filled]
    exact ⟨List.cons_ne_nil _ _, by simpa using solid⟩

/-- A piece is written as a word. -/
theorem isWord_flatMap_written {piece : List Letter} (nonempty : piece ≠ [])
    (whole : ∀ letter ∈ piece, letter.cuts = false) :
    Text.IsWord (piece.flatMap (Letter.written sentinel)) := by
  refine ⟨fun empty => ?_, fun c member => ?_⟩
  · obtain ⟨letter, member⟩ := List.exists_mem_of_ne_nil piece nonempty
    exact (letter.isWord_written isWord (whole letter member)).1
      (List.flatMap_eq_nil_iff.mp empty letter member)
  · obtain ⟨letter, inPiece, inWritten⟩ := List.mem_flatMap.mp member
    exact (letter.isWord_written isWord (whole letter inPiece)).2 c inWritten

/-- Letters at none of which a text is cut are written as one word or, if there are none,
as nothing, when a blank follows or the text ends. -/
theorem words_piece_append {piece : List Letter}
    (whole : ∀ letter ∈ piece, letter.cuts = false) (rest : List Char)
    (boundary : ∀ c ∈ rest.head?, Text.isBlank c = true) :
    Text.words (piece.flatMap (Letter.written sentinel) ++ rest) =
      ([piece].filter fun piece => !piece.isEmpty).map
        (List.flatMap (Letter.written sentinel)) ++ Text.words rest := by
  cases piece with
  | nil => rfl
  | cons first others =>
      exact Text.words_append
        (isWord_flatMap_written isWord (List.cons_ne_nil first others) whole) boundary

/-- The words of what was written are the pieces, where letters in front, at none of which
the text is cut, begin the first piece. -/
theorem words_append_written (front letters : List Letter)
    (whole : ∀ letter ∈ front, letter.cuts = false) :
    Text.words ((front ++ letters).flatMap (Letter.written sentinel)) =
      (((letters.splitOnP Letter.cuts).modifyHead (front ++ ·)).filter
        fun piece => !piece.isEmpty).map (List.flatMap (Letter.written sentinel)) := by
  induction letters generalizing front with
  | nil =>
      have frontWords := words_piece_append isWord whole [] (by simp)
      simpa [Text.words_nil] using frontWords
  | cons letter letters inductionHypothesis =>
      rw [List.splitOnP_cons_eq_if_modifyHead]
      cases cut : letter.cuts with
      | true =>
          obtain ⟨loose, blank⟩ :
              letter.inSpan = false ∧ Text.isBlank letter.char = true := by
            simpa [Letter.cuts] using cut
          have asIs : letter.written sentinel = [letter.char] := by
            simp [Letter.written, loose]
          have later := inductionHypothesis [] (by simp)
          rw [List.nil_append, modifyHead_nil_append] at later
          rw [List.flatMap_append, List.flatMap_cons, asIs, List.singleton_append,
            words_piece_append isWord whole _ (by simpa using blank),
            Text.words_cons_blank blank, later, if_pos rfl, List.modifyHead_cons,
            List.append_nil, ← List.map_append, ← List.filter_append,
            List.singleton_append]
      | false =>
          have longer : ∀ other ∈ front ++ [letter], other.cuts = false := by
            intro other member
            obtain inFront | isLast := List.mem_append.mp member
            · exact whole other inFront
            · exact List.mem_singleton.mp isLast ▸ cut
          rw [List.append_cons, inductionHypothesis (front ++ [letter]) longer,
            if_neg Bool.false_ne_true, List.modifyHead_modifyHead]
          simp [Function.comp_def]

/-- The words of what was written are the pieces. -/
theorem words_written (letters : List Letter) :
    Text.words (letters.flatMap (Letter.written sentinel)) =
      (pieces letters).map (List.flatMap (Letter.written sentinel)) := by
  have fromNothing := words_append_written isWord [] letters (by simp)
  rwa [modifyHead_nil_append] at fromNothing

end Cutting

end Spans

namespace ReaderSettings

/-- A text that is accepted as the sentinel is a word, and is what blanks become. -/
theorem isWord_of_setSentinel {chosen settings : ReaderSettings} {sentinel : String}
    (accepted : chosen.setSentinel (.text sentinel) = .ok settings) :
    settings.sentinel = sentinel ∧ Text.IsWord sentinel.toList := by
  simp only [setSentinel] at accepted
  split at accepted
  · cases accepted
  · rename_i fit
    cases accepted
    rw [Bool.or_eq_true, not_or, decide_eq_true_eq, List.any_eq_true] at fit
    refine ⟨rfl, fun empty => fit.1 (String.toList_eq_nil_iff.mp empty), fun c member => ?_⟩
    exact Bool.eq_false_iff.mpr fun blank => fit.2 ⟨c, member, blank⟩

/-- Escaping a text and cutting it at its blanks tells the same words as a scan that knows
about quotes. -/
theorem words_escape {chosen settings : ReaderSettings} {sentinel : String}
    (accepted : chosen.setSentinel (.text sentinel) = .ok settings)
    (plain : '\\' ∉ sentinel.toList) (text : List Char) :
    ∃ letters escaped,
      Spans.Scan text letters ∧ (∀ others, Spans.Scan text others → others = letters) ∧
      settings.escape text = .ok escaped ∧
      Text.words escaped =
        (Spans.pieces letters).map
          (List.flatMap (Spans.Letter.written sentinel.toList)) := by
  obtain ⟨rfl, isWord⟩ := isWord_of_setSentinel accepted
  obtain ⟨letters, scan⟩ := Spans.exists_scan text
  refine ⟨letters, _, scan, fun others other => scan.unique other,
    escape_eq_mapBlanks plain text, ?_⟩
  rw [scan.mapBlanks_eq, Spans.words_written isWord]

/-- Spans of both quotes that hold each other's quote, begin inside of a word or hold a
tab, next to a quote that opens nothing. -/
theorem words_escape_crossed_quotes :
    let text := "say 'it\"s\tfine' x\"a  b\"y \"\" don't".toList
    let settings : ReaderSettings := ⟨"#", "%"⟩
    ReaderSettings.standard.setSentinel (.text "%") = .ok settings ∧
      '\\' ∉ "%".toList ∧
      ∃ letters escaped,
        Spans.Scan text letters ∧ (∀ others, Spans.Scan text others → others = letters) ∧
        settings.escape text = .ok escaped ∧
        Text.words escaped =
          (Spans.pieces letters).map (List.flatMap (Spans.Letter.written "%".toList)) ∧
        Text.words escaped =
          ["say".toList, "'it\"s%fine'".toList, "x\"a%%b\"y".toList, "\"\"".toList,
            "don't".toList] := by
  intro text settings
  have accepted : ReaderSettings.standard.setSentinel (.text "%") = .ok settings := rfl
  have plain : '\\' ∉ "%".toList := by decide
  obtain ⟨letters, escaped, scan, unique, escapes, words⟩ :=
    words_escape accepted plain text
  refine ⟨accepted, plain, letters, escaped, scan, unique, escapes, words, ?_⟩
  cases escapes.symm.trans (escape_eq_mapBlanks plain text)
  decide +kernel

end ReaderSettings

end CommandHost
