import CommandHost.Command.Simple
import CommandHost.Proofs.Command.Escaping

/-!
# Writing and reading commands of the simple dialect

A `SimplePhrase` is a command as it is written in the simple dialect: the module, the
operation, and parameters, each of which is named or stands for itself.  Its words may be
written with any blanks between them.  The main statement: whatever the blanks are, reading
what a fitting phrase writes gives exactly the command that the phrase stands for.

The reader assigns the parameters one after another.  What this comes to is said without
the assigning: a key is listed where it was assigned first, with the value that it was
assigned last.
-/

namespace CommandHost

/-! ## Words with blanks between them -/

namespace Text

/-- Tokens with gaps around them: the first gap stands in front of the first token, and one
more behind each token. -/
def spread (gap : Nat → List Char) : List (List Char) → List Char
  | [] => gap 0
  | token :: rest => gap 0 ++ (token ++ spread (fun place => gap (place + 1)) rest)

/-- Gaps that keep a number of tokens apart: they are blank, and only the first and the last
one may be empty. -/
structure IsSpacing (gap : Nat → List Char) (count : Nat) : Prop where
  blank : ∀ place ≤ count, isBlankText (gap place) = true
  apart : ∀ place, 0 < place → place < count → gap place ≠ []

theorem isBlank_of_mem_head? {front rest : List Char} (blank : isBlankText front = true)
    (here : front ≠ [] ∨ rest = []) : ∀ c ∈ (front ++ rest).head?, isBlank c = true := by
  intro c first
  cases front with
  | nil =>
      obtain rfl := here.resolve_left (· rfl)
      simp at first
  | cons d front =>
      obtain rfl : d = c := by simpa using first
      exact List.all_eq_true.mp blank d List.mem_cons_self

/-- Gaps without the first one keep the tokens behind the first one apart. -/
theorem IsSpacing.tail {gap : Nat → List Char} {count : Nat}
    (spacing : IsSpacing gap (count + 1)) : IsSpacing (fun place => gap (place + 1)) count where
  blank place bound := spacing.blank (place + 1) (Nat.succ_le_succ bound)
  apart place _ bound := spacing.apart (place + 1) (Nat.succ_pos place) (Nat.succ_lt_succ bound)

/-- Cutting at blanks gives the tokens back, whatever the gaps are. -/
theorem words_spread {tokens : List (List Char)} (isWord : ∀ token ∈ tokens, IsWord token)
    {gap : Nat → List Char} (spacing : IsSpacing gap tokens.length) :
    words (spread gap tokens) = tokens := by
  induction tokens generalizing gap with
  | nil => exact words_eq_nil_iff.mpr (spacing.blank 0 (Nat.zero_le _))
  | cons token rest inductionHypothesis =>
      obtain ⟨firstWord, restWords⟩ := List.forall_mem_cons.mp isWord
      have gapBlank : isBlankText (gap 1) = true := spacing.blank 1 (by simp)
      -- Behind the token comes a gap that is not empty, or nothing but the last gap.
      have boundary :
          ∀ c ∈ (spread (fun place => gap (place + 1)) rest).head?, isBlank c = true := by
        cases rest with
        | nil =>
            have last : ∀ c ∈ (gap 1 ++ []).head?, isBlank c = true :=
              isBlank_of_mem_head? gapBlank (.inr rfl)
            simpa [spread] using last
        | cons second others =>
            exact isBlank_of_mem_head? gapBlank (.inl (spacing.apart 1 (by simp) (by simp)))
      rw [spread, words_append_of_blank_left (spacing.blank 0 (Nat.zero_le _)),
        words_append firstWord boundary, inductionHypothesis restWords spacing.tail]

end Text

/-! ## What assigning one after another comes to -/

namespace Entries

/-- The value that a key is assigned last, or null if it is assigned none. -/
def lastAssigned (assignments : List (String × Value)) (key : String) : Value :=
  (assignments.reverse.lookup key).getD .null

/-- The keys that are assigned, in the order of the first assignments, each with the value
that it is assigned last. -/
def settled (assignments : List (String × Value)) : Entries :=
  ofTexts <| (assignments.map Prod.fst).eraseDups.map fun key =>
    (key, lastAssigned assignments key)

theorem nodup_eraseDups : ∀ keys : List String, keys.eraseDups.Nodup
  | [] => List.nodup_nil
  | key :: rest => by
      rw [List.eraseDups_cons, List.nodup_cons, List.mem_eraseDups]
      exact ⟨by simp, nodup_eraseDups _⟩
termination_by keys => keys.length
decreasing_by exact Nat.lt_succ_of_le (List.length_filter_le _ rest)

theorem lastAssigned_append (assignments : List (String × Value)) (key : String)
    (value : Value) (name : String) :
    lastAssigned (assignments ++ [(key, value)]) name =
      if name = key then value else lastAssigned assignments name := by
  by_cases same : name = key
  · simp [lastAssigned, same]
  · have apart : (name == key) = false := by simpa using same
    simp [lastAssigned, List.lookup_cons, same, apart]

/-- A key that is assigned a value keeps its place among distinct keys, or comes behind
them. -/
theorem set_ofTexts_map {keys : List String} (nodup : keys.Nodup) (held : String → Value)
    (key : String) (value : Value) :
    (ofTexts (keys.map fun name => (name, held name))).set key value =
      ofTexts ((if key ∈ keys then keys else keys ++ [key]).map fun name =>
        (name, if name = key then value else held name)) := by
  induction keys with
  | nil => simp [ofTexts, set]
  | cons first rest inductionHypothesis =>
      obtain ⟨firstNew, restNodup⟩ := List.nodup_cons.mp nodup
      have later := inductionHypothesis restNodup
      simp only [ofTexts, set, List.map_cons, List.map_map] at later ⊢
      by_cases same : key = first
      · subst same
        have others : ∀ name ∈ rest, name ≠ key := fun name member same =>
          firstNew (same ▸ member)
        simp +contextual [assign, others]
      · have apart : (first = key) = False := by simp [Ne.symm same]
        rw [assign, if_neg (by simpa using same), later]
        by_cases member : key ∈ rest <;> simp [member, same, apart]

/-- Assigning one after another gives the keys in the order of the first assignments, with
the values that were assigned last. -/
theorem foldl_set_eq_settled (assignments : List (String × Value)) :
    assignments.foldl (fun (sofar : Entries) entry => sofar.set entry.1 entry.2) [] =
      settled assignments := by
  induction assignments using List.reverseRecOn with
  | nil => rfl
  | append_singleton others entry inductionHypothesis =>
      obtain ⟨key, value⟩ := entry
      have keys :
          ((others ++ [(key, value)]).map Prod.fst).eraseDups =
            if key ∈ others.map Prod.fst then (others.map Prod.fst).eraseDups
            else (others.map Prod.fst).eraseDups ++ [key] := by
        rw [List.map_append, List.eraseDups_append]
        by_cases member : key ∈ others.map Prod.fst
        · simp [List.removeAll, member]
        · simp [List.removeAll, member, List.eraseDups_cons]
      rw [List.foldl_append, List.foldl_cons, List.foldl_nil, inductionHypothesis, settled,
        set_ofTexts_map (nodup_eraseDups _), settled, keys]
      simp only [lastAssigned_append, List.mem_eraseDups]

end Entries

/-! ## Phrases -/

/-- A parameter as it is written in the simple dialect. -/
inductive SimpleParam where
  | named (key value : String)
  | positional (word : String)

namespace SimpleParam

/-- The word of a parameter. -/
def written : SimpleParam → List Char
  | named key value => key.toList ++ nameMark :: value.toList
  | positional word => word.toList

/-- What a parameter assigns that stands at a position. -/
def assignment (position : Nat) : SimpleParam → String × Value
  | named key value => (key, .text value)
  | positional word => (intText position, .text word)

/-- A parameter that can be read back.  Key and value of a named one have no blanks, and the
colon behind the key is the first one; both may be empty.  A positional one is a word
without a colon. -/
inductive Fit : SimpleParam → Prop where
  | named {key value : String} (keySolid : ∀ c ∈ key.toList, Text.isBlank c = false)
      (unmarked : nameMark ∉ key.toList)
      (valueSolid : ∀ c ∈ value.toList, Text.isBlank c = false) : Fit (.named key value)
  | positional {word : String} (isWord : Text.IsWord word.toList)
      (unmarked : nameMark ∉ word.toList) : Fit (.positional word)

theorem Fit.written_isWord {param : SimpleParam} (fit : param.Fit) :
    Text.IsWord param.written := by
  cases fit with
  | named keySolid _ valueSolid =>
      refine ⟨by simp [written], fun c member => ?_⟩
      obtain inKey | isMark | inValue :
          c ∈ _ ∨ c = nameMark ∨ c ∈ _ := by simpa [written] using member
      · exact keySolid c inKey
      · subst isMark
        rfl
      · exact valueSolid c inValue
  | positional isWord _ => exact isWord

end SimpleParam

/-- A command as it is written in the simple dialect. -/
structure SimplePhrase where
  moduleName : String
  op : String
  params : List SimpleParam

namespace SimplePhrase

/-- The words of a phrase. -/
def words (phrase : SimplePhrase) : List (List Char) :=
  phrase.moduleName.toList :: phrase.op.toList :: phrase.params.map SimpleParam.written

/-- The text of a phrase with gaps around its words. -/
def render (phrase : SimplePhrase) (gap : Nat → List Char) : String :=
  String.ofList (Text.spread gap phrase.words)

/-- What the parameters assign.  Their positions are counted from one, those of named ones
included. -/
def assignments (phrase : SimplePhrase) : List (String × Value) :=
  (phrase.params.zipIdx 1).map fun entry => entry.1.assignment entry.2

/-- The command that a phrase stands for. -/
def command (phrase : SimplePhrase) : Command where
  moduleName := phrase.moduleName
  op := phrase.op
  params := .settled phrase.assignments
  target := none

/-- A phrase that can be read back. -/
structure Fit (phrase : SimplePhrase) : Prop where
  module_word : Text.IsWord phrase.moduleName.toList
  op_word : Text.IsWord phrase.op.toList
  params_fit : ∀ param ∈ phrase.params, param.Fit

theorem Fit.words_isWord {phrase : SimplePhrase} (fit : phrase.Fit) :
    ∀ token ∈ phrase.words, Text.IsWord token := by
  simp only [words, List.forall_mem_cons, List.forall_mem_map]
  exact ⟨fit.module_word, fit.op_word, fun param member =>
    (fit.params_fit param member).written_isWord⟩

end SimplePhrase

/-! ## Reading a phrase -/

namespace SimpleDialect

/-- The word of a fitting parameter is assigned as the parameter says. -/
theorem assignParams_written {param : SimpleParam} (fit : param.Fit) (entries : Entries)
    (position : Nat) (rest : List (List Char)) :
    assignParams entries position (param.written :: rest) =
      assignParams
        (entries.set (param.assignment position).1 (param.assignment position).2)
        (position + 1) rest := by
  cases fit with
  | named _ unmarked _ =>
      simp [assignParams, SimpleParam.written, SimpleParam.assignment,
        Text.cutAtFirst?_append unmarked, Text.cutAtFirst?]
  | positional _ unmarked =>
      simp [assignParams, SimpleParam.written, SimpleParam.assignment,
        Text.cutAtFirst?_eq_none_iff.mpr unmarked]

/-- Reading the words of parameters makes their assignments one after another. -/
theorem assignParams_map_written {params : List SimpleParam}
    (fit : ∀ param ∈ params, param.Fit) (entries : Entries) (position : Nat) :
    assignParams entries position (params.map SimpleParam.written) =
      ((params.zipIdx position).map fun entry => entry.1.assignment entry.2).foldl
        (fun sofar entry => sofar.set entry.1 entry.2) entries := by
  induction params generalizing entries position with
  | nil => rfl
  | cons param rest inductionHypothesis =>
      obtain ⟨paramFit, restFit⟩ := List.forall_mem_cons.mp fit
      rw [List.map_cons, assignParams_written paramFit, inductionHypothesis restFit,
        List.zipIdx_cons, List.map_cons, List.foldl_cons]

/-- Reading the text of a fitting phrase, with any blanks around its words, gives exactly the
command that the phrase stands for. -/
theorem read_spread {phrase : SimplePhrase} (fit : phrase.Fit) {gap : Nat → List Char}
    (spacing : Text.IsSpacing gap phrase.words.length) :
    read (some (phrase.render gap)) none = .ok phrase.command := by
  have cut : Text.words (phrase.render gap).toList = phrase.words := by
    rw [SimplePhrase.render, String.toList_ofList, Text.words_spread fit.words_isWord spacing]
  have assigned :
      assignParams [] 1 (phrase.params.map SimpleParam.written) =
        .settled phrase.assignments := by
    rw [assignParams_map_written fit.params_fit, ← Entries.foldl_set_eq_settled]
    rfl
  simp only [read, Option.getD_some, cut, SimplePhrase.words, read.readUnnamed,
    readOperation, assigned, String.ofList_toList, SimplePhrase.command]

/-- A phrase in which positions and names take each other's keys, one name and one value are
empty, and a value holds colons. -/
def collidingPhrase : SimplePhrase where
  moduleName := "x:ui"
  op := "set"
  params :=
    [.positional "a", .named "1" "b:c", .named "" ":", .named "5" "d", .positional "e",
      .named "k" "", .named "" "f"]

/-- Gaps of several kinds of blanks. -/
def motleyGap : Nat → List Char
  | 0 => ['\t', '\n']
  | 1 => ['\u00a0']
  | 9 => ['\u2028', '\x1c']
  | place => List.replicate place ' '

theorem read_spread_collidingPhrase :
    collidingPhrase.Fit ∧ Text.IsSpacing motleyGap collidingPhrase.words.length ∧
      read
          (some "\t\nx:ui\u00a0set  a   1:b:c    ::     5:d      e       k:        :f\u2028\x1c")
          none =
        .ok {
          moduleName := "x:ui"
          op := "set"
          params :=
            .ofTexts
              [("1", .text "b:c"), ("", .text "f"), ("5", .text "e"), ("k", .text "")]
          target := none } := by
  have fit : collidingPhrase.Fit := {
    module_word := ⟨by decide, Text.forall_mem_of_all (by decide)⟩
    op_word := ⟨by decide, Text.forall_mem_of_all (by decide)⟩
    params_fit := by
      simp only [collidingPhrase, List.forall_mem_cons, List.not_mem_nil, false_imp_iff,
        implies_true, and_true]
      refine ⟨.positional ?_ (by decide), .named ?_ (by decide) ?_, .named ?_ (by decide) ?_,
        .named ?_ (by decide) ?_, .positional ?_ (by decide), .named ?_ (by decide) ?_,
        .named ?_ (by decide) ?_⟩
      all_goals first
        | exact Text.forall_mem_of_all (by decide)
        | exact ⟨by decide, Text.forall_mem_of_all (by decide)⟩ }
  have spacing : Text.IsSpacing motleyGap collidingPhrase.words.length :=
    { blank := by decide
      apart := by
        have apart : ∀ place < 9, 0 < place → motleyGap place ≠ [] := by decide
        exact fun place positive bound => apart place bound positive }
  have written :
      collidingPhrase.render motleyGap =
        "\t\nx:ui\u00a0set  a   1:b:c    ::     5:d      e       k:        :f\u2028\x1c" := by
    decide +kernel
  have back := read_spread fit spacing
  rw [written] at back
  exact ⟨fit, spacing, back⟩

end SimpleDialect

end CommandHost
