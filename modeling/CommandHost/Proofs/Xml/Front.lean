import CommandHost.Proofs.Xml.Extension
import CommandHost.Text.Blank
import CommandHost.Xml.Document

/-!
# What stands in front of the root element

The tokens in front of the root element are the same whatever stands behind them, and so is
what they declare.  A text of blanks has no root element.
-/

namespace CommandHost.Xml

namespace Doctype

/-! ## Tokens -/

theorem readWord_append {fuel more : Nat} (enough : fuel ≤ more) {kind : WordKind}
    {sofar text rest : List Char} {token : Token} {c : Char} (fits : text.length < fuel)
    (reads : readWord fuel kind sofar text = .ok (token, c :: rest)) (after : List Char) :
    readWord more kind sofar (text ++ after) = .ok (token, c :: (rest ++ after)) := by
  -- Induction on the fuel; a word that is ended by a character looks no further than that.
  induction fuel generalizing more kind sofar text with
  | zero => simp at fits
  | succ fuel inductionHypothesis =>
      obtain ⟨more, rfl⟩ : ∃ left, more = left + 1 := ⟨more - 1, by omega⟩
      have enough : fuel ≤ more := by omega
      cases text with
      | nil =>
          rw [readWord.eq_def] at reads
          simp at reads
      | cons d others =>
          have fits : others.length < fuel := by simpa using fits
          rw [readWord.eq_def] at reads ⊢
          dsimp only [List.cons_append] at reads ⊢
          by_cases belongs : isNameChar d = true
          · rw [if_pos belongs] at reads ⊢
            exact inductionHypothesis enough fits reads
          rw [if_neg belongs] at reads ⊢
          by_cases ends : endsWord d = true
          · rw [if_pos ends] at reads ⊢
            simp_all
          rw [if_neg ends] at reads ⊢
          by_cases colon : d = ':'
          · rw [if_pos colon] at reads ⊢
            split at reads
            · -- Behind a colon a name may go on with a second part.
              cases others with
              | nil => simp at reads
              | cons e behind =>
                  dsimp only [List.cons_append] at reads ⊢
                  by_cases belongsToo : isNameChar e = true
                  · rw [if_pos belongsToo] at reads ⊢
                    exact inductionHypothesis enough (by simp at fits; omega) reads
                  rw [if_neg belongsToo] at reads ⊢
                  by_cases wide : 0x80 ≤ e.toNat
                  · simp [wide] at reads
                  · rw [if_neg wide] at reads ⊢
                    exact inductionHypothesis enough fits reads
            · exact inductionHypothesis enough fits reads
          rw [if_neg colon] at reads ⊢
          split at reads
          · split at reads
            · simp at reads
            · next named =>
                rw [if_neg named]
                simp_all
          · simp at reads

theorem extendsInside_readLiteral (quote : Char) (sofar : List Char) :
    ExtendsInside (readLiteral quote sofar) := by
  intro text token c rest reads after
  induction text generalizing sofar with
  | nil => simp [readLiteral] at reads
  | cons d others inductionHypothesis =>
      rw [readLiteral] at reads
      rw [List.cons_append, readLiteral]
      split at reads
      · next closes =>
          rw [if_pos closes]
          split at reads
          · next ends =>
              obtain ⟨rfl, rfl⟩ : Token.literal sofar.reverse = token ∧ others = c :: rest := by
                simpa using reads
              rw [if_pos (by simpa using ends)]
              rfl
          · simp at reads
      · next goesOn =>
          rw [if_neg goesOn]
          split at reads
          · next allowed =>
              rw [if_pos allowed]
              exact inductionHypothesis _ reads
          · simp at reads

theorem extendsInside_readOpening : ExtendsInside readOpening := by
  intro text token c rest reads after
  unfold readOpening at reads
  split at reads
  · obtain ⟨⟨content, last⟩, readsComment, same⟩ := map_eq_ok_iff.mp reads
    obtain ⟨rfl, rfl⟩ : Token.comment = token ∧ last = c :: rest := by simpa using same
    rw [List.cons_append, readOpening, extends_readComment readsComment after]
    rfl
  · simp_all [readOpening]
  · next d others noHyphen noBracket =>
      generalize letter_eq : (fun c : Char => c.isAlpha || c = '_') = letter at reads
      dsimp only at reads
      split at reads
      · simp at reads
      · next starts =>
          split at reads
          · simp at reads
          · simp at reads
          · next e behind noPercent stop =>
              split at reads
              · next ends =>
                  obtain ⟨rfl, rfl, rfl⟩ :
                      Token.opening (String.ofList ((d :: others).takeWhile letter)) = token ∧
                        e = c ∧ behind = rest := by
                    simpa using reads
                  obtain ⟨sameRun, sameRest⟩ := takeWhile_append_of_stop stop after
                  rw [List.cons_append, readOpening]
                  · rw [if_neg starts, letter_eq, ← List.cons_append]
                    dsimp only
                    rw [sameRun, sameRest]
                    cases behind with
                    | nil =>
                        -- A lone percent sign at the end is no keyword yet.
                        have noPercent : e ≠ '%' := fun same => noPercent same rfl
                        split
                        · simp_all
                        · simp_all
                        · next same =>
                            obtain ⟨rfl, rfl⟩ := List.cons.inj same
                            simp_all
                    | cons f behind => simp_all
                  · simpa using noHyphen
                  · simpa using noBracket
              · simp at reads
  · simp at reads

theorem extendsInside_readPercent : ExtendsInside readPercent := by
  intro text token c rest reads after
  unfold readPercent at reads
  split at reads
  · next d others =>
      rw [List.cons_append, readPercent]
      split at reads
      · next ends =>
          rw [if_pos ends]
          simp_all
      · next noEnd =>
          rw [if_neg noEnd]
          obtain ⟨⟨name, behind⟩, readsName, reads⟩ := bind_eq_ok_iff.mp reads
          dsimp only at reads
          split at reads
          · obtain ⟨rfl, rfl⟩ : Token.parameter = token ∧ _ = c :: rest := by simpa using reads
            rw [← List.cons_append, extendsInside_readName readsName after]
            rfl
          · simp at reads
  · simp at reads

theorem extendsInside_readHashed : ExtendsInside readHashed := by
  intro text token c rest reads after
  obtain ⟨⟨name, behind⟩, readsName, reads⟩ := bind_eq_ok_iff.mp reads
  dsimp only at reads
  split at reads
  · next ends =>
      obtain ⟨rfl, rfl⟩ : Token.hashed (String.ofList name) = token ∧ behind = c :: rest := by
        simpa using reads
      rw [readHashed, extendsInside_readName readsName after]
      simp only [ok_bind]
      rw [if_pos (by simpa using ends)]
      rfl
  · simp at reads

theorem extendsInside_readMarkup {text rest : List Char} {token : Token} {c : Char}
    (reads : readToken ('<' :: text) = .ok (token, c :: rest)) (after : List Char) :
    readToken ('<' :: (text ++ after)) = .ok (token, c :: (rest ++ after)) := by
  rw [readToken.eq_def] at reads ⊢
  simp only [isSpace, Char.reduceEq, decide_false, Bool.or_self, Bool.false_eq_true, if_false,
    if_true] at reads ⊢
  split at reads
  · simp at reads
  · exact extendsInside_readOpening reads after
  · obtain ⟨⟨content, last⟩, readsInstruction, same⟩ := map_eq_ok_iff.mp reads
    obtain ⟨rfl, rfl⟩ : Token.instruction content = token ∧ last = c :: rest := by
      simpa using same
    rw [List.cons_append]
    simp only
    rw [Instruction.extends_read readsInstruction after]
    rfl
  · next d others noMark noQuestion =>
      split at reads
      · next starts =>
          obtain ⟨rfl, rfl, rfl⟩ : Token.element = token ∧ '<' = c ∧ d :: others = rest := by
            simpa using reads
          simp_all
      · simp at reads

theorem extendsInside_readToken : ExtendsInside readToken := by
  intro text token c rest reads after
  cases text with
  | nil => simp [readToken] at reads
  | cons d others =>
      by_cases bracket : d = '<'
      · subst bracket
        exact extendsInside_readMarkup reads after
      rw [readToken.eq_def] at reads ⊢
      simp only [List.cons_append, if_neg bracket] at reads ⊢
      by_cases space : isSpace d = true
      · rw [if_pos space] at reads ⊢
        obtain ⟨rfl, stop⟩ : Token.space = token ∧ skipSpaces others = c :: rest := by
          simpa using reads
        rw [skipSpaces_append stop after]
      rw [if_neg space] at reads ⊢
      by_cases quote : (decide (d = '"') || decide (d = '\'')) = true
      · rw [if_pos (by simpa using quote)] at reads ⊢
        exact extendsInside_readLiteral d [] reads after
      rw [if_neg (by simpa using quote)] at reads ⊢
      by_cases percent : d = '%'
      · rw [if_pos percent] at reads ⊢
        exact extendsInside_readPercent reads after
      rw [if_neg percent] at reads ⊢
      by_cases comma : d = ','
      · rw [if_pos comma] at reads ⊢
        simp_all
      rw [if_neg comma] at reads ⊢
      by_cases opens : d = '['
      · rw [if_pos opens] at reads ⊢
        simp_all
      rw [if_neg opens] at reads ⊢
      by_cases closes : d = ']'
      · rw [if_pos closes] at reads ⊢
        split at reads
        · simp at reads
        · simp_all
        · next noLone noSection =>
            obtain ⟨rfl, rfl⟩ : Token.closeBracket = token ∧ others = c :: rest := by
              simpa using reads
            cases rest with
            | nil => split <;> simp_all
            | cons e tail => split <;> simp_all
      rw [if_neg closes] at reads ⊢
      by_cases opensGroup : d = '('
      · rw [if_pos opensGroup] at reads ⊢
        simp_all
      rw [if_neg opensGroup] at reads ⊢
      by_cases closesGroup : d = ')'
      · rw [if_pos closesGroup] at reads ⊢
        cases others with
        | nil => simp at reads
        | cons e behind =>
            dsimp only [List.cons_append] at reads ⊢
            split at reads
            · simp_all
            · split at reads
              · next ends =>
                  rw [if_pos ends]
                  simp_all
              · simp at reads
      rw [if_neg closesGroup] at reads ⊢
      by_cases bar : d = '|'
      · rw [if_pos bar] at reads ⊢
        simp_all
      rw [if_neg bar] at reads ⊢
      by_cases ends : d = '>'
      · rw [if_pos ends] at reads ⊢
        simp_all
      rw [if_neg ends] at reads ⊢
      by_cases hash : d = '#'
      · rw [if_pos hash] at reads ⊢
        exact extendsInside_readHashed reads after
      rw [if_neg hash] at reads ⊢
      by_cases starts : isNameStart d = true
      · rw [if_pos starts] at reads ⊢
        exact readWord_append (by simp) (by simp) reads after
      rw [if_neg starts] at reads ⊢
      split at reads
      · next belongs =>
          rw [if_pos belongs]
          exact readWord_append (by simp) (by simp) reads after
      · simp at reads

/-! ## The token of the root element -/

theorem ite_ne {α : Type} {p : Prop} [Decidable p] {first second other : α}
    (differs : first ≠ other) (differsToo : second ≠ other) :
    (if p then first else second) ≠ other := by
  split <;> assumption

theorem readWord_ne_element {fuel : Nat} {kind : WordKind} {sofar text rest : List Char} :
    readWord fuel kind sofar text ≠ .ok (.element, rest) := by
  induction fuel generalizing kind sofar text with
  | zero => simp [readWord.eq_def]
  | succ fuel inductionHypothesis =>
      cases text with
      | nil => simp [readWord.eq_def]
      | cons c others =>
          rw [readWord.eq_def]
          dsimp only
          repeat' split
          all_goals first | exact inductionHypothesis | simp

theorem readLiteral_ne_element {quote : Char} {sofar text rest : List Char} :
    readLiteral quote sofar text ≠ .ok (.element, rest) := by
  induction text generalizing sofar with
  | nil => simp [readLiteral]
  | cons c others inductionHypothesis =>
      rw [readLiteral]
      repeat' split
      all_goals first | exact inductionHypothesis | simp

theorem readOpening_ne_element {text rest : List Char} :
    readOpening text ≠ .ok (.element, rest) := by
  unfold readOpening
  dsimp only
  repeat' split
  all_goals simp [map_eq_ok_iff]

theorem readPercent_ne_element {text rest : List Char} :
    readPercent text ≠ .ok (.element, rest) := by
  unfold readPercent
  repeat' split
  all_goals simp [bind_eq_ok_iff]
  intro _ behind _
  split <;> simp

theorem readHashed_ne_element {text rest : List Char} :
    readHashed text ≠ .ok (.element, rest) := by
  unfold readHashed
  simp only [ne_eq, bind_eq_ok_iff, not_exists, not_and]
  rintro ⟨name, behind⟩ -
  dsimp only
  split <;> simp

/-- The root element begins with a bracket and what may begin a name. -/
theorem eq_of_readToken_element {text rest : List Char}
    (reads : readToken text = .ok (.element, rest)) :
    rest = text ∧ ∃ d others, text = '<' :: d :: others ∧
      (decide (0x80 ≤ d.toNat) || isNameStart d) = true := by
  rw [readToken.eq_def] at reads
  split at reads
  · simp at reads
  · next c others =>
      by_cases bracket : c = '<'
      · subst bracket
        simp only [isSpace, Char.reduceEq, decide_false, Bool.or_self, Bool.false_eq_true,
          if_false, if_true] at reads
        split at reads
        · simp at reads
        · exact absurd reads readOpening_ne_element
        · simp [map_eq_ok_iff] at reads
        · split at reads
          · next d others _ _ starts =>
              obtain rfl : '<' :: d :: others = rest := by simpa using reads
              exact ⟨rfl, d, others, rfl, by simpa using starts⟩
          · simp at reads
      · -- Nothing else gives the token of the root element.
        simp only [if_neg bracket] at reads
        refine absurd reads ?_
        refine ite_ne (by simp) (ite_ne readLiteral_ne_element (ite_ne readPercent_ne_element
          (ite_ne (by simp) (ite_ne (by simp) (ite_ne ?_ (ite_ne (by simp) (ite_ne ?_
            (ite_ne (by simp) (ite_ne (by simp) (ite_ne readHashed_ne_element
              (ite_ne readWord_ne_element (ite_ne readWord_ne_element (by simp)))))))))))))
        · split <;> simp
        · split
          · simp
          · split
            · simp
            · split <;> simp

end Doctype

/-! ## Everything in front -/

theorem readFront_nil (fuel : Nat) (progress : Doctype.Progress) :
    readFront fuel progress [] = .error .noElement := by
  cases fuel <;> rfl

theorem readFront_of_token {fuel : Nat} {progress : Doctype.Progress} {text rest : List Char}
    {token : Doctype.Token} (reads : Doctype.readToken text = .ok (token, rest))
    (inFront : token ≠ .element) :
    readFront (fuel + 1) progress text =
      match Doctype.Place.step progress token with
      | .error fault => .error fault
      | .ok progress => readFront fuel progress rest := by
  rw [readFront, reads]
  cases token <;> first | rfl | exact absurd rfl inFront

/-- The root element may stand in front of the document type and behind it. -/
theorem readFront_of_element {fuel : Nat} {progress : Doctype.Progress} {text rest : List Char}
    (reads : Doctype.readToken text = .ok (.element, rest)) :
    readFront (fuel + 1) progress text =
      if progress.place = .start ∨ progress.place = .front ∨ progress.place = .behind then
        .ok (progress.declared, rest)
      else .error .misplacedToken := by
  rw [readFront, reads]
  cases place : progress.place <;> simp

/-- Longer texts and more fuel do not change what is declared in front of the root element,
nor where that begins. -/
theorem readFront_append {fuel more : Nat} (enough : fuel ≤ more) {progress : Doctype.Progress}
    {text rest : List Char} {declared : Declared}
    (reads : readFront fuel progress text = .ok (declared, rest)) (after : List Char) :
    readFront more progress (text ++ after) = .ok (declared, rest ++ after) := by
  induction fuel generalizing more progress text with
  | zero => simp [readFront] at reads
  | succ fuel inductionHypothesis =>
      obtain ⟨more, rfl⟩ : ∃ left, more = left + 1 := ⟨more - 1, by omega⟩
      have enough : fuel ≤ more := by omega
      cases readsToken : Doctype.readToken text with
      | error fault => simp [readFront, readsToken] at reads
      | ok found =>
          obtain ⟨token, last⟩ := found
          by_cases inFront : token = .element
          · subst inFront
            obtain ⟨rfl, d, others, rfl, -⟩ := Doctype.eq_of_readToken_element readsToken
            have readsToken' := Doctype.extendsInside_readToken readsToken after
            rw [readFront_of_element readsToken] at reads
            rw [readFront_of_element readsToken']
            split at reads
            · next placed =>
                obtain ⟨rfl, rfl⟩ : progress.declared = declared ∧ '<' :: d :: others = rest := by
                  simpa using reads
                rw [if_pos placed]
                rfl
            · simp at reads
          · rw [readFront_of_token readsToken inFront] at reads
            cases stepped : Doctype.Place.step progress token with
            | error fault => simp [stepped] at reads
            | ok next =>
                rw [stepped] at reads
                cases last with
                | nil => simp [readFront_nil] at reads
                | cons c behind =>
                    rw [readFront_of_token (Doctype.extendsInside_readToken readsToken after)
                      inFront, stepped]
                    exact inductionHypothesis enough reads

/-- The root element begins with a bracket and what may begin a name. -/
theorem exists_bracket_of_readFront {fuel : Nat} {progress : Doctype.Progress}
    {text rest : List Char} {declared : Declared}
    (reads : readFront fuel progress text = .ok (declared, rest)) :
    ∃ d others, rest = '<' :: d :: others ∧
      (decide (0x80 ≤ d.toNat) || isNameStart d) = true := by
  induction fuel generalizing progress text with
  | zero => simp [readFront] at reads
  | succ fuel inductionHypothesis =>
      cases readsToken : Doctype.readToken text with
      | error fault => simp [readFront, readsToken] at reads
      | ok found =>
          obtain ⟨token, last⟩ := found
          by_cases inFront : token = .element
          · subst inFront
            obtain ⟨rfl, starts⟩ := Doctype.eq_of_readToken_element readsToken
            rw [readFront_of_element readsToken] at reads
            split at reads
            · obtain ⟨-, rfl⟩ : progress.declared = declared ∧ last = rest := by simpa using reads
              exact starts
            · simp at reads
          · rw [readFront_of_token readsToken inFront] at reads
            cases stepped : Doctype.Place.step progress token with
            | error fault => simp [stepped] at reads
            | ok next =>
                rw [stepped] at reads
                exact inductionHypothesis reads

/-! ## Blank texts -/

/-- The code points of the blank characters. -/
def blankCodes : List Nat :=
  [9, 10, 11, 12, 13, 28, 29, 30, 31, 32, 0x85, 0xA0, 0x1680, 0x2000, 0x2001, 0x2002, 0x2003,
    0x2004, 0x2005, 0x2006, 0x2007, 0x2008, 0x2009, 0x200A, 0x2028, 0x2029, 0x202F, 0x205F, 0x3000]

theorem readToken_of_blank {c : Char} (blank : Text.isBlank c = true)
    (noSpace : isSpace c = false) (others : List Char) :
    Doctype.readToken (c :: others) = .error .invalidToken := by
  have member : c.toNat ∈ blankCodes := by
    simp only [Text.isBlank, Bool.or_eq_true, Bool.and_eq_true, decide_eq_true_eq,
      beq_iff_eq] at blank
    simp only [blankCodes, List.mem_cons, List.not_mem_nil, or_false]
    omega
  have foreign : ∀ code ∈ blankCodes,
      isNameStart (Char.ofNat code) = false ∧ isNameChar (Char.ofNat code) = false ∧
        Char.ofNat code ∉ ['"', '\'', '<', '%', ',', '[', ']', '(', ')', '|', '>', '#', ':'] := by
    decide +kernel
  obtain ⟨noStart, noName, noMark⟩ := foreign c.toNat member
  rw [Char.ofNat_toNat] at noStart noName noMark
  simp only [List.mem_cons, not_or] at noMark
  simp [Doctype.readToken.eq_def, noSpace, noStart, noName, noMark]

/-- A blank text is a run of separators, or has a character that fits nowhere. -/
theorem readFront_of_blank {fuel : Nat} {progress : Doctype.Progress} {text : List Char}
    (blank : ∀ c ∈ text, Text.isBlank c = true) :
    ∃ fault, readFront fuel progress text = .error fault := by
  induction fuel generalizing progress text with
  | zero => exact ⟨.noElement, rfl⟩
  | succ fuel inductionHypothesis =>
      cases text with
      | nil => exact ⟨.noElement, readFront_nil _ _⟩
      | cons c others =>
          by_cases space : isSpace c = true
          · have reads : Doctype.readToken (c :: others) = .ok (.space, skipSpaces others) := by
              rw [Doctype.readToken.eq_def]
              simp only [if_pos space]
            rw [readFront_of_token reads (by simp)]
            exact inductionHypothesis fun d member =>
              blank d (List.mem_cons_of_mem c ((List.dropWhile_suffix _).mem member))
          · have reads := readToken_of_blank (blank c List.mem_cons_self) (by simpa using space)
              others
            exact ⟨.invalidToken, by rw [readFront, reads]⟩

end CommandHost.Xml
