import CommandHost.Proofs.Result
import CommandHost.Xml.Lexeme

/-!
# Readers and what stands behind their pieces

A reader of a piece with an end of its own gives the same piece whatever stands behind it
(`Extends`).  A reader of a run does so as long as the run was ended by a character
(`ExtendsInside`).  No reader of a piece complains that the root element is missing
(`Present`), which is left to the reader of the whole content.
-/

namespace CommandHost.Xml

variable {α β : Type}

/-- Whatever stands behind the piece that is read, it is read in the same way. -/
def Extends (read : Step α) : Prop :=
  ∀ {text : List Char} {value : α} {rest : List Char},
    read text = .ok (value, rest) → ∀ after, read (text ++ after) = .ok (value, rest ++ after)

/-- Whatever stands behind the character that ends a run, the run is read in the same way. -/
def ExtendsInside (read : Step α) : Prop :=
  ∀ {text : List Char} {value : α} {c : Char} {rest : List Char},
    read text = .ok (value, c :: rest) →
      ∀ after, read (text ++ after) = .ok (value, c :: (rest ++ after))

theorem Extends.inside {read : Step α} (extends_ : Extends read) : ExtendsInside read := by
  intro text value c rest reads after
  simpa using extends_ reads after

/-- An outcome that does not complain about a missing root element. -/
def Present (outcome : Except Fault α) : Prop := outcome ≠ .error .noElement

@[simp] theorem present_ok (value : α) : Present (.ok value : Except Fault α) := by
  simp [Present]

@[simp] theorem present_error_iff {fault : Fault} :
    Present (.error fault : Except Fault α) ↔ fault ≠ .noElement := by
  simp [Present]

theorem Present.bind {first : Except Fault α} {next : α → Except Fault β}
    (present : Present first) (presentNext : ∀ value, Present (next value)) :
    Present (first >>= next) := by
  cases first with
  | error fault => simpa [Bind.bind, Except.bind, Present] using present
  | ok value => exact presentNext value

theorem Present.map {first : Except Fault α} (present : Present first) (change : α → β) :
    Present (first.map change) := by
  cases first with
  | error fault => simpa [Except.map, Present] using present
  | ok value => simp [Except.map]

@[simp] theorem unexpected_ne_noElement (text : List Char) : unexpected text ≠ .noElement := by
  cases text <;> simp [unexpected]

/-! ## Runs of characters -/

/-- A run that a character ended goes no further in a longer text. -/
theorem takeWhile_append_of_stop {p : Char → Bool} {text : List Char} {c : Char}
    {rest : List Char} (stop : text.dropWhile p = c :: rest) (after : List Char) :
    (text ++ after).takeWhile p = text.takeWhile p ∧
      (text ++ after).dropWhile p = c :: (rest ++ after) := by
  induction text with
  | nil => simp at stop
  | cons d others inductionHypothesis =>
      by_cases belongs : p d = true
      · rw [List.dropWhile_cons_of_pos belongs] at stop
        simpa [belongs] using inductionHypothesis stop
      · rw [List.dropWhile_cons_of_neg belongs] at stop
        obtain ⟨rfl, rfl⟩ := List.cons.inj stop
        simp [belongs]

theorem skipSpaces_append {text : List Char} {c : Char} {rest : List Char}
    (stop : skipSpaces text = c :: rest) (after : List Char) :
    skipSpaces (text ++ after) = c :: (rest ++ after) :=
  (takeWhile_append_of_stop stop after).2

/-! ## Names and references -/

theorem extendsInside_readName : ExtendsInside readName := by
  intro text value c rest reads after
  cases text with
  | nil => simp [readName] at reads
  | cons d others =>
      rw [readName] at reads
      split at reads
      · next starts =>
          simp only [Except.ok.injEq, Prod.mk.injEq] at reads
          obtain ⟨rfl, stop⟩ := reads
          obtain ⟨sameRun, sameRest⟩ := takeWhile_append_of_stop stop after
          rw [List.cons_append, readName, if_pos starts, sameRun, sameRest]
      · simp at reads

theorem present_readName (text : List Char) : Present (readName text) := by
  cases text with
  | nil => simp [readName]
  | cons c rest => rw [readName]; split <;> simp

theorem extendsInside_readQualified : ExtendsInside readQualified := by
  intro text value c rest reads after
  rw [readQualified, bind_eq_ok_iff] at reads
  obtain ⟨⟨first, behind⟩, readsFirst, reads⟩ := reads
  cases behind with
  | nil => simp at reads
  | cons d others =>
      rw [readQualified, extendsInside_readName readsFirst after]
      dsimp only at reads
      split at reads
      · next second same =>
          -- A prefix, and behind its colon the rest of the name.
          obtain ⟨rfl, rfl⟩ := List.cons.inj same
          obtain ⟨⟨name, last⟩, readsSecond, reads⟩ := bind_eq_ok_iff.mp reads
          obtain ⟨rfl, rfl⟩ : first ++ ':' :: name = value ∧ last = c :: rest := by
            simpa using reads
          simp [extendsInside_readName readsSecond after]
      · next noColon =>
          obtain ⟨rfl, rfl, rfl⟩ : first = value ∧ d = c ∧ others = rest := by
            simpa using reads
          have different : d ≠ ':' := fun same => noColon others (by rw [same])
          simp only [ok_bind]
          split
          · next same => exact absurd (List.cons.inj same).1 different
          · rfl

theorem present_readQualified (text : List Char) : Present (readQualified text) := by
  refine (present_readName text).bind fun value => ?_
  dsimp only
  split
  · exact (present_readName _).bind fun _ => present_ok _
  · exact present_ok _

theorem extends_readNumber (base : Nat) : Extends (readNumber base) := by
  intro text value rest reads after
  unfold readNumber at reads ⊢
  generalize belongs_eq : (fun c => (Text.hexValue? c).any (· < base)) = belongs at reads ⊢
  dsimp only at reads ⊢
  split at reads
  · next digit digits rest digitsEq stop =>
      obtain ⟨sameRun, sameRest⟩ := takeWhile_append_of_stop stop after
      simp only [Except.ok.injEq, Prod.mk.injEq] at reads
      obtain ⟨rfl, rfl⟩ := reads
      rw [sameRun, sameRest, digitsEq]
      rfl
  · simp at reads

theorem present_readNumber (base : Nat) (text : List Char) : Present (readNumber base text) := by
  unfold readNumber
  dsimp only
  split <;> simp

theorem extends_readReference : Extends readReference := by
  intro text value rest reads after
  unfold readReference at reads
  split at reads
  · exact extends_readNumber 16 reads after
  · next others noHex =>
      have goesOn : ∀ tail, others ++ after ≠ 'x' :: tail := by
        cases others with
        | nil => simp [readNumber] at reads
        | cons d others =>
            rintro tail same
            exact noHex others (by rw [(List.cons.inj same).1])
      rw [List.cons_append, readReference]
      · exact extends_readNumber 10 reads after
      · exact goesOn
  · next noHex noHash =>
      obtain ⟨⟨name, behind⟩, readsName, reads⟩ := bind_eq_ok_iff.mp reads
      dsimp only at reads
      split at reads
      · obtain ⟨rfl, rfl⟩ : _ ∧ _ = rest := by simpa using reads
        have named : ∃ d others, text = d :: others ∧ d ≠ '#' := by
          cases text with
          | nil => simp [readName] at readsName
          | cons d others => exact ⟨d, others, rfl, fun same => noHash others (by rw [same])⟩
        obtain ⟨d, others, rfl, different⟩ := named
        rw [List.cons_append, readReference]
        · rw [← List.cons_append, extendsInside_readName readsName after]
          rfl
        · simp [different]
        · simp [different]
      · simp at reads

theorem present_readReference (text : List Char) : Present (readReference text) := by
  unfold readReference
  split
  · exact present_readNumber 16 _
  · exact present_readNumber 10 _
  · refine (present_readName text).bind fun value => ?_
    dsimp only
    split
    · exact present_ok _
    · exact by simp

/-! ## Comments and instructions -/

theorem extends_readCommentFrom (sofar : List Char) : Extends (readCommentFrom sofar) := by
  intro text value rest reads after
  fun_induction readCommentFrom sofar text with
  | case1 => simp at reads
  | case2 => simp at reads
  | case3 => simp at reads
  | case4 sofar others =>
      obtain ⟨rfl, rfl⟩ : sofar.reverse = value ∧ others = rest := by simpa using reads
      simp [readCommentFrom]
  | case5 => simp at reads
  | case6 sofar c others noLast noTwo noEnd allowed inductionHypothesis =>
      -- A hyphen that goes on is followed by something other than a hyphen.
      have apart : c = '-' → ∃ d tail, others = d :: tail ∧ d ≠ '-' := by
        intro hyphen
        cases others with
        | nil => exact (noLast hyphen rfl).elim
        | cons d tail =>
            refine ⟨d, tail, rfl, ?_⟩
            rintro rfl
            cases tail with
            | nil => exact noTwo hyphen rfl
            | cons e tail => exact noEnd e tail hyphen rfl
      rw [List.cons_append, readCommentFrom, if_pos allowed]
      · exact inductionHypothesis reads
      all_goals
        intros
        obtain ⟨d, tail, rfl, different⟩ := apart (by assumption)
        simp_all
  | case7 => simp at reads

theorem present_readCommentFrom (sofar text : List Char) :
    Present (readCommentFrom sofar text) := by
  fun_induction readCommentFrom sofar text <;> simp_all

theorem extends_readComment : Extends readComment := by
  intro text value rest reads after
  unfold readComment at reads
  split at reads
  · exact extends_readCommentFrom [] reads after
  · simp at reads

theorem present_readComment (text : List Char) : Present (readComment text) := by
  unfold readComment
  split
  · exact present_readCommentFrom [] _
  · simp

namespace Instruction

theorem extends_readFrom (sofar : List Char) : Extends (readFrom sofar) := by
  intro text value rest reads after
  fun_induction readFrom sofar text with
  | case1 => simp at reads
  | case2 => simp at reads
  | case3 sofar others =>
      obtain ⟨rfl, rfl⟩ : sofar.reverse = value ∧ others = rest := by simpa using reads
      simp [readFrom]
  | case4 sofar c others noLast noEnd allowed inductionHypothesis =>
      have apart : c = '?' → ∃ d tail, others = d :: tail ∧ d ≠ '>' := by
        intro mark
        cases others with
        | nil => exact (noLast mark rfl).elim
        | cons d tail => exact ⟨d, tail, rfl, fun same => noEnd tail mark (by rw [same])⟩
      rw [List.cons_append, readFrom, if_pos allowed]
      · exact inductionHypothesis reads
      all_goals
        intros
        obtain ⟨d, tail, rfl, different⟩ := apart (by assumption)
        simp_all
  | case5 => simp at reads

theorem present_readFrom (sofar text : List Char) : Present (readFrom sofar text) := by
  fun_induction readFrom sofar text <;> simp_all

theorem extends_read : Extends read := by
  intro text value rest reads after
  obtain ⟨⟨target, behind⟩, readsTarget, reads⟩ := bind_eq_ok_iff.mp reads
  cases behind with
  | nil => simp at reads
  | cons c behind =>
      dsimp only at reads
      rw [read, extendsInside_readName readsTarget after]
      simp only [ok_bind]
      split at reads
      · simp at reads
      · next unreserved =>
          rw [if_neg unreserved]
          split at reads
          · next space =>
              rw [if_pos space]
              obtain ⟨⟨content, last⟩, readsContent, reads⟩ := bind_eq_ok_iff.mp reads
              obtain ⟨rfl, rfl⟩ : _ = value ∧ last = rest := by
                simpa using reads
              rw [extends_readFrom [c] readsContent after]
              rfl
          · next noSpace =>
              rw [if_neg noSpace]
              split at reads
              · next mark =>
                  rw [if_pos mark]
                  split at reads
                  · obtain ⟨rfl, rfl⟩ : _ = value ∧ _ = rest := by
                      simpa using reads
                    rfl
                  · simp at reads
              · simp at reads

theorem present_read (text : List Char) : Present (read text) := by
  refine (present_readName text).bind fun value => ?_
  dsimp only
  split
  · simp
  · split
    · simp
    · split
      · exact (present_readFrom _ _).bind fun _ => present_ok _
      · split
        · split
          · exact present_ok _
          · simp
        · simp

end Instruction

/-! ## Tags -/

namespace Tag

theorem readValue_append {quote : Char} {fuel more : Nat} (enough : fuel ≤ more)
    {sofar text value rest : List Char}
    (reads : readValue quote fuel sofar text = .ok (value, rest)) (after : List Char) :
    readValue quote more sofar (text ++ after) = .ok (value, rest ++ after) := by
  induction fuel generalizing more sofar text with
  | zero => simp [readValue] at reads
  | succ fuel inductionHypothesis =>
      obtain ⟨more, rfl⟩ : ∃ left, more = left + 1 := ⟨more - 1, by omega⟩
      have enough : fuel ≤ more := by omega
      cases text with
      | nil => simp [readValue] at reads
      | cons c others =>
          rw [readValue] at reads
          rw [List.cons_append, readValue]
          by_cases closes : c = quote
          · rw [if_pos closes] at reads ⊢
            obtain ⟨rfl, rfl⟩ : sofar.reverse = value ∧ others = rest := by simpa using reads
            rfl
          · rw [if_neg closes] at reads ⊢
            by_cases refused : (decide (c = '<') || !isAllowed c) = true
            · simp [refused] at reads
            · rw [if_neg (by simpa using refused)] at reads ⊢
              by_cases ampersand : c = '&'
              · rw [if_pos ampersand] at reads ⊢
                cases reference : readReference others with
                | error fault => simp [reference] at reads
                | ok found =>
                    obtain ⟨found, behind⟩ := found
                    rw [extends_readReference reference after]
                    rw [reference] at reads
                    have same : (others ++ after).take
                        ((others ++ after).length - (behind ++ after).length) =
                          others.take (others.length - behind.length) := by
                      rw [List.length_append, List.length_append, Nat.add_sub_add_right,
                        List.take_append_of_le_length (Nat.sub_le ..)]
                    dsimp only
                    rw [same]
                    exact inductionHypothesis enough reads
              · rw [if_neg ampersand] at reads ⊢
                exact inductionHypothesis enough reads

theorem present_readValue (quote : Char) (fuel : Nat) (sofar text : List Char) :
    Present (readValue quote fuel sofar text) := by
  induction fuel generalizing sofar text with
  | zero => simp [readValue]
  | succ fuel inductionHypothesis =>
      cases text with
      | nil => simp [readValue]
      | cons c others =>
          rw [readValue]
          split
          · simp
          · split
            · simp
            · split
              · have present := present_readReference others
                split
                · next fault refused => simpa [refused] using present
                · exact inductionHypothesis _ _
              · exact inductionHypothesis _ _

theorem exists_cons_of_skipSpaces {text : List Char} {c : Char} {rest : List Char}
    (stop : skipSpaces text = c :: rest) : ∃ d others, text = d :: others := by
  cases text with
  | nil => simp [skipSpaces] at stop
  | cons d others => exact ⟨d, others, rfl⟩

theorem extends_readAttribute : Extends readAttribute := by
  intro text value rest reads after
  obtain ⟨⟨name, behind⟩, readsName, reads⟩ := bind_eq_ok_iff.mp reads
  dsimp only at reads
  split at reads
  · next behindEquals stopEquals =>
      split at reads
      · next quote opened stopQuote =>
          split at reads
          · next isQuote =>
              obtain ⟨⟨written, last⟩, readsValue, reads⟩ := bind_eq_ok_iff.mp reads
              obtain ⟨rfl, rfl⟩ : (String.ofList name, written) = value ∧ last = rest := by
                simpa using reads
              obtain ⟨d, others, rfl⟩ := exists_cons_of_skipSpaces stopEquals
              have extendedValue := readValue_append
                (show opened.length + 1 ≤ (opened ++ after).length + 1 by simp) readsValue after
              rw [readAttribute, extendsInside_readQualified readsName after]
              simp only [ok_bind]
              rw [← List.cons_append, skipSpaces_append stopEquals after]
              simp only [skipSpaces_append stopQuote after]
              rw [if_pos isQuote, extendedValue]
              rfl
          · simp at reads
      · simp at reads
  · simp at reads

theorem present_readAttribute (text : List Char) : Present (readAttribute text) := by
  refine (present_readQualified text).bind fun value => ?_
  dsimp only
  split
  · split
    · split
      · exact (present_readValue _ _ _ _).bind fun _ => present_ok _
      · simp
    · simp
  · simp

theorem readAttributes_append {fuel more : Nat} (enough : fuel ≤ more)
    {sofar : List (String × List Char)} {text rest : List Char}
    {value : List (String × List Char) × Bool}
    (reads : readAttributes fuel sofar text = .ok (value, rest)) (after : List Char) :
    readAttributes more sofar (text ++ after) = .ok (value, rest ++ after) := by
  induction fuel generalizing more sofar text with
  | zero => simp [readAttributes] at reads
  | succ fuel inductionHypothesis =>
      obtain ⟨more, rfl⟩ : ∃ left, more = left + 1 := ⟨more - 1, by omega⟩
      have enough : fuel ≤ more := by omega
      rw [readAttributes.eq_def] at reads
      dsimp only at reads
      split at reads
      · obtain ⟨rfl, rfl⟩ : (sofar.reverse, false) = value ∧ _ = rest := by simpa using reads
        simp [readAttributes]
      · simp at reads
      · obtain ⟨rfl, rfl⟩ : (sofar.reverse, true) = value ∧ _ = rest := by simpa using reads
        simp [readAttributes]
      · next c others noEnd noSlash noClosed =>
          split at reads
          · next space =>
              have noMark : c ≠ '>' ∧ c ≠ '/' := by
                constructor <;> rintro rfl <;> simp [isSpace] at space
              cases stop : skipSpaces (c :: others) with
              | nil => simp [stop] at reads
              | cons d behind =>
                  rw [stop] at reads
                  rw [List.cons_append, readAttributes]
                  · rw [if_pos space, ← List.cons_append, skipSpaces_append stop after]
                    dsimp only at reads ⊢
                    split at reads
                    · next mark =>
                        rw [if_pos mark]
                        exact inductionHypothesis enough reads
                    · next noMark =>
                        rw [if_neg noMark]
                        cases attribute_ : readAttribute (d :: behind) with
                        | error fault => simp [attribute_] at reads
                        | ok found =>
                            rw [attribute_] at reads
                            rw [← List.cons_append, extends_readAttribute attribute_ after]
                            exact inductionHypothesis enough reads
                  all_goals simp [noMark]
          · simp at reads
      · simp at reads

theorem present_readAttributes (fuel : Nat) (sofar : List (String × List Char))
    (text : List Char) : Present (readAttributes fuel sofar text) := by
  induction fuel generalizing sofar text with
  | zero => simp [readAttributes]
  | succ fuel inductionHypothesis =>
      rw [readAttributes.eq_def]
      dsimp only
      split
      · simp
      · simp
      · simp
      · split
        · split
          · simp
          · next d behind stop =>
              split
              · exact inductionHypothesis _ _
              · have present := present_readAttribute (d :: behind)
                split
                · next fault refused => simpa [refused] using present
                · exact inductionHypothesis _ _
        · simp
      · simp

theorem extends_read : Extends read := by
  intro text value rest reads after
  obtain ⟨⟨name, behind⟩, readsName, reads⟩ := bind_eq_ok_iff.mp reads
  obtain ⟨⟨⟨attributes, closed⟩, last⟩, readsAttributes, reads⟩ := bind_eq_ok_iff.mp reads
  obtain ⟨rfl, rfl⟩ : (⟨String.ofList name, attributes, closed⟩ : Tag) = value ∧ last = rest := by
    simpa using reads
  cases behind with
  | nil => simp [readAttributes] at readsAttributes
  | cons c others =>
      have extended := readAttributes_append
        (show (c :: others).length + 1 ≤ (c :: others ++ after).length + 1 by simp)
        readsAttributes after
      rw [read, extendsInside_readQualified readsName after]
      simp only [ok_bind]
      rw [← List.cons_append, extended]
      rfl

theorem present_read (text : List Char) : Present (read text) :=
  (present_readQualified text).bind fun _ =>
    (present_readAttributes _ _ _).bind fun _ => present_ok _

theorem extends_readEnd : Extends readEnd := by
  intro text value rest reads after
  obtain ⟨⟨first, behind⟩, readsFirst, reads⟩ := bind_eq_ok_iff.mp reads
  generalize belongs_eq : (fun c => isNameChar c || c = ':') = belongs at reads
  dsimp only at reads
  split at reads
  · next last stop =>
      obtain ⟨rfl, rfl⟩ : String.ofList (first ++ behind.takeWhile belongs) = value ∧
          last = rest := by
        simpa using reads
      obtain ⟨c, others, rfl⟩ : ∃ c others, behind = c :: others := by
        cases behind with
        | nil => simp [skipSpaces] at stop
        | cons c others => exact ⟨c, others, rfl⟩
      obtain ⟨d, tail, ends⟩ := exists_cons_of_skipSpaces stop
      obtain ⟨sameRun, sameRest⟩ := takeWhile_append_of_stop ends after
      rw [ends] at stop
      rw [readEnd, extendsInside_readName readsFirst after]
      simp only [ok_bind]
      rw [belongs_eq, ← List.cons_append, sameRun, sameRest, ← List.cons_append,
        skipSpaces_append stop after]
      rfl
  · simp at reads

theorem present_readEnd (text : List Char) : Present (readEnd text) := by
  refine (present_readName text).bind fun value => ?_
  dsimp only
  split
  · exact present_ok _
  · simp

end Tag

/-! ## Sections -/

theorem extends_readSectionStart : Extends readSectionStart := by
  intro text value rest reads after
  unfold readSectionStart at reads
  dsimp only at reads
  split at reads
  · simp at reads
  · next long =>
      split at reads
      · next opens =>
          obtain ⟨tail, rfl⟩ := List.isPrefixOf_iff_prefix.mp opens
          obtain rfl : tail = rest := by simpa using reads
          rw [List.append_assoc]
          have word : (sectionWord ++ (tail ++ after)).take sectionWord.length = sectionWord := by
            simp
          rw [readSectionStart, word]
          simp
          decide
      · simp at reads

theorem present_readSectionStart (text : List Char) : Present (readSectionStart text) := by
  unfold readSectionStart
  dsimp only
  split
  · simp
  · split <;> simp

theorem extends_readSection (sofar : List Char) : Extends (readSection sofar) := by
  intro text value rest reads after
  fun_induction readSection sofar text with
  | case1 => simp at reads
  | case2 sofar others =>
      obtain ⟨rfl, rfl⟩ : sofar.reverse = value ∧ others = rest := by simpa using reads
      simp [readSection]
  | case3 sofar c others noEnd allowed inductionHypothesis =>
      rw [List.cons_append, readSection, if_pos allowed]
      · exact inductionHypothesis reads
      · -- Two more characters are there, or else the section has no end.
        rintro tail rfl same
        cases others with
        | nil => simp [readSection] at reads
        | cons d others =>
            cases others with
            | nil =>
                rw [readSection] at reads
                · split at reads <;> simp [readSection] at reads
                · simp
            | cons e others => simp_all
  | case4 => simp at reads

theorem present_readSection (sofar text : List Char) : Present (readSection sofar text) := by
  fun_induction readSection sofar text <;> simp_all

end CommandHost.Xml
