import CommandHost.Command.Simple
import CommandHost.Proofs.Command.RichRoundTrip
import Mathlib.Data.List.Chain
import Mathlib.Data.List.TakeWhile

/-!
# Texts that both dialects read alike

The simple dialect keeps a bare word under its position as soon as it meets it.  The
rich dialect lets it wait, because it may be the key of the value that follows; a
named parameter or the end of the text settles that it was a value after all.

The main statement: on a text without quotes and without the sentinel, whose operation
does not look like an object target and in which no bare word follows another one, the
two dialects have the same outcome.  What carries the proof is that the parameters of
the simple dialect are at every moment those of the rich dialect once the word that
waits has been settled.
-/

namespace CommandHost

/-! ## The words of a text are pieces of it -/

namespace Text

theorem words_cons_solid {c : Char} (solid : isBlank c = false) (rest : List Char) :
    words (c :: rest) =
      (c :: rest).takeWhile (fun x => !isBlank x) ::
        words ((c :: rest).dropWhile fun x => !isBlank x) := by
  have isWord : IsWord ((c :: rest).takeWhile fun x => !isBlank x) := by
    refine ⟨by simp [solid], fun x member => ?_⟩
    simpa using List.mem_takeWhile_imp member
  have boundary :
      ∀ x ∈ ((c :: rest).dropWhile fun x => !isBlank x).head?, isBlank x = true := by
    intro x first
    have stopped := List.head?_dropWhile_not (fun x => !isBlank x) (c :: rest)
    rw [Option.mem_def.mp first] at stopped
    simpa using stopped
  have cut := words_append isWord boundary
  rwa [List.takeWhile_append_dropWhile] at cut

theorem isInfix_of_mem_words : ∀ text : List Char, ∀ word ∈ words text, word <:+: text
  | [] => by simp
  | c :: rest => by
      intro word member
      by_cases blank : isBlank c = true
      · rw [words_cons_blank blank] at member
        exact (isInfix_of_mem_words rest word member).trans (List.suffix_cons c rest).isInfix
      · have solid : isBlank c = false := by simpa using blank
        rw [words_cons_solid solid] at member
        rcases List.mem_cons.mp member with rfl | later
        · exact (List.takeWhile_prefix _).isInfix
        · have suffix : rest.dropWhile (fun x => !isBlank x) <:+ rest :=
            List.dropWhile_suffix _
          have shorter := suffix.length_le
          rw [List.dropWhile_cons_of_pos (by simp [solid])] at later
          exact (isInfix_of_mem_words _ word later).trans
            (suffix.trans (List.suffix_cons c rest)).isInfix
termination_by text => text.length

end Text

/-! ## Parameters that are not quoted -/

namespace RichDialect

variable {settings : ReaderSettings}

/-- A word that the rich dialect takes as it is: no quote and no sentinel in it. -/
structure IsUnmarked (settings : ReaderSettings) (word : List Char) : Prop where
  nonempty : word ≠ []
  unquoted : ∀ c ∈ word, isQuote c = false
  sentinel_free : ¬ settings.sentinel.toList <:+: word

/-- Whether a word is a named parameter. -/
def IsNamed (word : List Char) : Prop := nameMark ∈ word

/-- What one word does to the parameters if nothing has to wait. -/
theorem assignParams_cons (params : Entries) (position : Nat) (word : List Char)
    (rest : List (List Char)) :
    SimpleDialect.assignParams params position (word :: rest) =
      SimpleDialect.assignParams (SimpleDialect.assignParams params position [word])
        (position + 1) rest := rfl

/-- A named parameter settles the word that waits and is then kept under its name. -/
theorem step_named {state : Fold} {word : List Char} (unmarked : IsUnmarked settings word)
    (closed : state.opened = none) (named : IsNamed word) (position : Nat) :
    step settings state position word =
      ⟨SimpleDialect.assignParams state.flush.params position [word], none, none⟩ := by
  obtain ⟨⟨key, value⟩, cut⟩ :
      ∃ parts, Text.cutAtFirst? nameMark word = some parts := by
    refine Option.ne_none_iff_exists'.mp fun uncut => ?_
    exact Text.cutAtFirst?_eq_none_iff.mp uncut named
  have valueSuffix : value <:+ word := by
    rw [(Text.cutAtFirst?_eq_some cut).1]
    exact (List.suffix_cons nameMark value).trans (List.suffix_append key _)
  have kept : settings.unescape value = value :=
    ReaderSettings.unescape_eq_self fun inside =>
      unmarked.sentinel_free (inside.trans valueSuffix.isInfix)
  obtain ⟨params, pending, opened⟩ := state
  obtain rfl : opened = none := closed
  cases word with
  | nil => exact absurd rfl unmarked.nonempty
  | cons first rest =>
      have plain : isQuote first = false := unmarked.unquoted first List.mem_cons_self
      cases pending with
      | none => simp [step, plain, cut, kept, Fold.flush, SimpleDialect.assignParams]
      | some pending => simp [step, plain, cut, kept, Fold.flush, SimpleDialect.assignParams]

/-- A bare word begins to wait if no other one does. -/
theorem step_bare {params : Entries} {word : List Char}
    (unmarked : IsUnmarked settings word) (bare : ¬ IsNamed word) (position : Nat) :
    step settings ⟨params, none, none⟩ position word =
      ⟨params, some ⟨String.ofList word, position⟩, none⟩ := by
  have uncut : Text.cutAtFirst? nameMark word = none :=
    Text.cutAtFirst?_eq_none_iff.mpr bare
  have kept : settings.unescape word = word :=
    ReaderSettings.unescape_eq_self unmarked.sentinel_free
  cases word with
  | nil => exact absurd rfl unmarked.nonempty
  | cons first rest =>
      have plain : isQuote first = false := unmarked.unquoted first List.mem_cons_self
      simp [step, plain, uncut, kept]

/-- A word that waits, settled, is what the simple dialect made of it at once. -/
theorem flush_waiting {params : Entries} {word : List Char} (bare : ¬ IsNamed word)
    (position : Nat) :
    (Fold.flush ⟨params, some ⟨String.ofList word, position⟩, none⟩).params =
      SimpleDialect.assignParams params position [word] := by
  have uncut : Text.cutAtFirst? nameMark word = none :=
    Text.cutAtFirst?_eq_none_iff.mpr bare
  simp [Fold.flush, SimpleDialect.assignParams, uncut]

/-- The words of parameters in which no bare word follows another one. -/
def BareApart (words : List (List Char)) : Prop :=
  words.IsChain fun first second => IsNamed first ∨ IsNamed second

/-- The delayed assignments of the rich dialect come to the assignments of the simple
dialect, as long as a word that waits is followed by a named parameter. -/
theorem run_settled {words : List (List Char)}
    (unmarked : ∀ word ∈ words, IsUnmarked settings word) (apart : BareApart words)
    (state : Fold) (closed : state.opened = none)
    (settles : state.pending ≠ none → ∀ word ∈ words.head?, IsNamed word)
    (position : Nat) :
    (run settings state position words).opened = none ∧
      (run settings state position words).flush.params =
        SimpleDialect.assignParams state.flush.params position words := by
  induction words generalizing state position with
  | nil => exact ⟨closed, rfl⟩
  | cons word rest inductionHypothesis =>
      have wordUnmarked : IsUnmarked settings word := unmarked word List.mem_cons_self
      have restUnmarked : ∀ other ∈ rest, IsUnmarked settings other := fun other member =>
        unmarked other (List.mem_cons_of_mem word member)
      have restApart : BareApart rest := apart.tail
      rw [run, assignParams_cons]
      by_cases named : IsNamed word
      · rw [step_named wordUnmarked closed named]
        exact inductionHypothesis restUnmarked restApart _ rfl (by simp) (position + 1)
      · obtain ⟨params, pending, opened⟩ := state
        obtain rfl : opened = none := closed
        have idle : pending = none := by
          by_contra waiting
          exact named (settles waiting word rfl)
        subst idle
        -- The word waits, so the next one has to be named.
        have nextNamed : ∀ next ∈ rest.head?, IsNamed next := by
          intro next first
          cases rest with
          | nil => simp at first
          | cons second others =>
              obtain rfl : second = next := by simpa using first
              exact (List.isChain_cons_cons.mp apart).1.resolve_left named
        rw [step_bare wordUnmarked named, ← flush_waiting named]
        exact inductionHypothesis restUnmarked restApart _ rfl (fun _ => nextNamed)
          (position + 1)

/-- Without quotes every value is closed, and the parameters are those of the simple
dialect. -/
theorem foldParams_eq_assignParams {words : List (List Char)}
    (unmarked : ∀ word ∈ words, IsUnmarked settings word) (apart : BareApart words) :
    foldParams settings words = .ok (SimpleDialect.assignParams [] 1 words) := by
  obtain ⟨closed, settled⟩ :=
    run_settled unmarked apart .start rfl (by simp [Fold.start]) 1
  simp only [foldParams, closed, settled]
  rfl

/-! ## Whole texts -/

/-- The words of a text behind the module, which is either the first word or given
apart. -/
def wordsBehindModule (text moduleName : Option String) : List (List Char) :=
  let words := Text.words (text.getD "").toList
  if moduleName.any (· ≠ "") then words else words.tail

/-- What a text must be like for the dialects to mean the same by it. -/
structure Plain (settings : ReaderSettings) (text moduleName : Option String) : Prop where
  unquoted : ∀ c ∈ (text.getD "").toList, isQuote c = false
  sentinel_free : ¬ settings.sentinel.toList <:+: (text.getD "").toList
  /-- The word in the place of the operation does not begin with the selector. -/
  op_unselected : ∀ op ∈ (wordsBehindModule text moduleName).head?,
    ¬ settings.selector.toList <+: op
  /-- Of two parameters in a row at least one is named. -/
  params_apart : BareApart (wordsBehindModule text moduleName).tail

theorem Plain.unmarked {text moduleName : Option String}
    (plain : Plain settings text moduleName) :
    ∀ word ∈ Text.words (text.getD "").toList, IsUnmarked settings word := by
  intro word member
  have inside : word <:+: (text.getD "").toList := Text.isInfix_of_mem_words _ word member
  exact {
    nonempty := (Text.words_solid _ word member).1
    unquoted := fun c inWord => plain.unquoted c (inside.subset inWord)
    sentinel_free := fun holds => plain.sentinel_free (holds.trans inside) }

theorem Plain.escape_eq {text moduleName : Option String}
    (plain : Plain settings text moduleName) :
    settings.escape (text.getD "").toList = .ok (text.getD "").toList := by
  have noSpan : Spans.hasSpan (text.getD "").toList = false := by
    have unquoted := plain.unquoted
    generalize (text.getD "").toList = content at unquoted
    induction content with
    | nil => rfl
    | cons c rest inductionHypothesis =>
        have restUnquoted : ∀ x ∈ rest, isQuote x = false := fun x member =>
          unquoted x (List.mem_cons_of_mem c member)
        simp [Spans.hasSpan, unquoted c List.mem_cons_self,
          inductionHypothesis restUnquoted]
  simp [ReaderSettings.escape, noSpan]

/-- From the operation on, the words mean the same in both dialects. -/
theorem readTarget_eq_readOperation {words : List (List Char)}
    (unmarked : ∀ word ∈ words, IsUnmarked settings word)
    (unselected : ∀ op ∈ words.head?, ¬ settings.selector.toList <+: op)
    (apart : BareApart words.tail) (text : Option String) (moduleName : String) :
    readTarget settings text moduleName words =
      SimpleDialect.readOperation text moduleName words := by
  cases words with
  | nil => rfl
  | cons op rest =>
      have restUnmarked : ∀ word ∈ rest, IsUnmarked settings word := fun word member =>
        unmarked word (List.mem_cons_of_mem op member)
      have notSelected : ¬ settings.selector.toList.isPrefixOf op = true := by
        simpa using unselected op rfl
      rw [readTarget, if_neg notSelected, readOperation,
        foldParams_eq_assignParams restUnmarked apart]
      rfl

/-- On such a text, whatever the settings and the module given are, both dialects give
the same command or refuse the text for the same cause. -/
theorem read_eq_simple_read (settings : ReaderSettings) (text moduleName : Option String)
    (plain : Plain settings text moduleName) :
    read settings text moduleName = (SimpleDialect.read text moduleName).mapError .parse := by
  have sameWords :
      readWords settings text moduleName (Text.words (text.getD "").toList) =
        SimpleDialect.read text moduleName := by
    have unmarked := plain.unmarked
    have unselected := plain.op_unselected
    have apart := plain.params_apart
    unfold wordsBehindModule at unselected apart
    unfold SimpleDialect.read
    generalize Text.words (text.getD "").toList = words at unmarked unselected apart
    have unnamed (noName : moduleName.any (· ≠ "") = false) :
        readWords.readUnnamed settings text words =
          SimpleDialect.read.readUnnamed text words := by
      rw [noName] at unselected apart
      cases words with
      | nil => rfl
      | cons name rest =>
          exact readTarget_eq_readOperation
            (fun word member => unmarked word (List.mem_cons_of_mem name member))
            unselected apart text (String.ofList name)
    cases moduleName with
    | none => exact unnamed rfl
    | some name =>
        by_cases empty : name = ""
        · simp only [readWords, empty, if_true]
          exact unnamed (by simp [empty])
        · simp only [readWords, empty, if_false]
          have given : (some name).any (· ≠ "") = true := by simp [empty]
          rw [given] at unselected apart
          exact readTarget_eq_readOperation unmarked unselected apart text name
  rw [read, plain.escape_eq]
  simp only [sameWords]
  cases SimpleDialect.read text moduleName <;> rfl

/-- A text in which named parameters take the keys of positions that are settled before
and after them. -/
theorem read_eq_simple_read_colliding :
    Plain .standard (some "xui set  a 1:b k:v\tx 4:c 7:d e 1:") none ∧
      read .standard (some "xui set  a 1:b k:v\tx 4:c 7:d e 1:") none =
        .ok {
          moduleName := "xui"
          op := "set"
          params :=
            .ofTexts
              [("1", .text ""), ("k", .text "v"), ("4", .text "c"), ("7", .text "e" )]
          target := none } := by
  have plain : Plain .standard (some "xui set  a 1:b k:v\tx 4:c 7:d e 1:") none := {
    unquoted := Text.forall_mem_of_all (by decide)
    sentinel_free := by decide
    op_unselected := by decide
    params_apart := by unfold BareApart IsNamed; decide }
  exact ⟨plain, read_eq_simple_read .standard _ none plain⟩

end RichDialect

end CommandHost
