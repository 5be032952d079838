import CommandHost.Proofs.Command.Accessors

/-!
# Accessors that agree

A parameter can be asked for in several ways: whether it is there, what it is, and what its
text is.  Each of them goes through the keys in order, and the first key that comes to
anything but null decides; where there is none, the default takes its place.

The main statement compares the answers.  A parameter is there exactly if asking for it with
null as the default gives something else than null, its text is the text of what is found,
keys that come to null can be put in front, and among parameters with text keys an integer
and its decimal text are the same key.
-/

namespace CommandHost

theorem Value.isNull_iff {value : Value} : value.isNull = true ↔ value = .null := by
  match value with
  | .null => simp [isNull]
  | .bool _ | .int _ | .float _ | .text _ | .atom (.moment _) | .object _ | .list _ | .map _ =>
      simp [isNull]

/-- Every key of a mapping is a text. -/
def Entries.HasTextKeys (entries : Entries) : Prop :=
  ∀ entry ∈ entries, ∃ name, entry.1 = .text name

/-! ## What a key comes to -/

namespace Source

/-- What a key comes to in a source.  Where there are no parameters every key comes to null,
also one that cannot be written out. -/
def lookup (source : Source) (key : Value) : Except IllegalUse Value :=
  if source.params.isEmpty then .ok .null else Arguments.lookup source.params key

/-- A key that holds null, or nothing at all. -/
def Lacks (source : Source) (key : Value) : Prop := source.lookup key = .ok .null

/-- The first of some keys that does not come to null decides: all keys before it do.  What
it comes to is the value that it holds, or a failure if it cannot be written out. -/
def Decides (source : Source) (keys : List Value) (outcome : Except IllegalUse Value) : Prop :=
  ∃ before key after, keys = before ++ key :: after ∧
    (∀ earlier ∈ before, source.Lacks earlier) ∧
    source.lookup key = outcome ∧ outcome ≠ .ok .null

/-- Either no key holds anything, or one of them decides. -/
theorem lacks_or_decides (source : Source) (keys : List Value) :
    (∀ key ∈ keys, source.Lacks key) ∨ ∃ outcome, source.Decides keys outcome := by
  induction keys with
  | nil => exact .inl (by simp)
  | cons first rest inductionHypothesis =>
      by_cases lacks : source.Lacks first
      · rcases inductionHypothesis with
          others | ⟨outcome, before, key, after, split, nothing, comes⟩
        · exact .inl (List.forall_mem_cons.mpr ⟨lacks, others⟩)
        · exact .inr ⟨outcome, first :: before, key, after, by simp [split],
            List.forall_mem_cons.mpr ⟨lacks, nothing⟩, comes⟩
      · exact .inr ⟨_, [], first, rest, rfl, by simp, rfl, lacks⟩

theorem Decides.not_isNull {source : Source} {keys : List Value} {value : Value}
    (decides : source.Decides keys (.ok value)) : ¬ value.isNull = true := by
  obtain ⟨_, _, _, _, _, _, something⟩ := decides
  rw [Value.isNull_iff]
  rintro rfl
  exact something rfl

end Source

namespace Arguments

variable {source : Source} {keys before after : List Value} {key other default value : Value}
variable {outcome : Except IllegalUse Value}

/-- A text key holds what is kept under it. -/
theorem lookup_text (params : Entries) (content : String) :
    lookup params (.text content) = .ok (params.getOrNull content) := by
  refine lookup_eq_ok_iff.mpr ⟨fun _ => Value.isWritable_text content, ?_⟩
  rw [held, direct?, Value.print_text, Entries.getOrNull, Entries.get?]
  cases params.find? (.text content) <;> rfl

theorem find?_eq_none_of_hasTextKeys {params : Entries} (textKeys : params.HasTextKeys)
    {atom : Atom} (noText : ∀ content, atom ≠ .text content) : params.find? atom = none := by
  induction params with
  | nil => rfl
  | cons entry rest inductionHypothesis =>
      obtain ⟨⟨name, named⟩, others⟩ := List.forall_mem_cons.mp textKeys
      have apart : atom.same entry.1 = false := by
        rw [named]
        cases atom with
        | text content => exact absurd rfl (noText content)
        | _ => simp [Atom.same, Atom.integer?]
      rw [Entries.find?, if_neg (by simp [apart])]
      exact inductionHypothesis others

/-- Among text keys every key counts by its text. -/
theorem lookup_eq_lookup_text (textKeys : source.params.HasTextKeys) {text : String}
    (written : key.toText = .ok text) : source.lookup key = source.lookup (.text text) := by
  suffices same : lookup source.params key = lookup source.params (.text text) by
    rw [Source.lookup, Source.lookup, same]
  have spelled (missing : direct? source.params key = none) :
      lookup source.params key = lookup source.params (.text text) := by
    rw [lookup_text, lookup, missing, written]
    rfl
  cases key with
  | atom content =>
      by_cases isText : ∃ name, content = .text name
      · obtain ⟨name, rfl⟩ := isText
        obtain ⟨-, rfl⟩ := Value.toText_eq_ok_iff.mp written
        rfl
      · exact spelled (find?_eq_none_of_hasTextKeys textKeys fun name same => isText ⟨name, same⟩)
  | list items => exact spelled rfl
  | map entries => exact spelled rfl

/-! ## The search, key by key -/

@[simp] theorem find?_nil (source : Source) : find? source [] = .ok none := by
  rw [find?]
  split <;> rfl

theorem find?_cons (source : Source) (key : Value) (rest : List Value) :
    find? source (key :: rest) =
      source.lookup key >>= fun value =>
        if value.isNull then find? source rest else .ok (some value) := by
  by_cases empty : source.params.isEmpty = true
  · simp [find?, Source.lookup, empty, Value.isNull]
  · simp [find?, Source.lookup, empty, firstOf]

theorem find?_append (lacking : ∀ earlier ∈ before, source.Lacks earlier)
    (keys : List Value) : find? source (before ++ keys) = find? source keys := by
  induction before with
  | nil => rfl
  | cons first rest inductionHypothesis =>
      obtain ⟨lacks, others⟩ := List.forall_mem_cons.mp lacking
      have nothing : source.lookup first = .ok .null := lacks
      rw [List.cons_append, find?_cons, nothing, ← inductionHypothesis others]
      rfl

theorem find?_of_lacks (lacking : ∀ key ∈ keys, source.Lacks key) :
    find? source keys = .ok none := by
  simpa using find?_append lacking []

theorem find?_of_decides (decides : source.Decides keys outcome) :
    find? source keys = outcome.map some := by
  have something : ∀ value, outcome = .ok value → ¬ value.isNull = true := by
    rintro value rfl
    exact decides.not_isNull
  obtain ⟨before, key, after, rfl, lacking, comes, -⟩ := decides
  rw [find?_append lacking, find?_cons, comes]
  cases outcome with
  | error cause => rfl
  | ok value => simp [something value rfl, Except.map]

/-- Keys that come to the same can stand for each other. -/
theorem find?_exchange (same : source.lookup key = source.lookup other)
    (before after : List Value) :
    find? source (before ++ key :: after) = find? source (before ++ other :: after) := by
  induction before with
  | nil => simp [find?_cons, same]
  | cons first rest inductionHypothesis =>
      simp only [List.cons_append, find?_cons, inductionHypothesis]

/-! ## The accessors by the key that decides -/

theorem getParam_of_decides (decides : source.Decides (keysOf key) outcome) :
    getParam source key default = outcome := by
  rw [getParam, find?_of_decides decides]
  cases outcome <;> rfl

theorem getParam_of_lacks (lacking : ∀ asked ∈ keysOf key, source.Lacks asked) :
    getParam source key default = .ok default := by
  rw [getParam, find?_of_lacks lacking]
  rfl

/-- What is found is what the first key that does not come to null comes to, or else the
default. -/
theorem getParam_eq_iff :
    getParam source key default = outcome ↔
      source.Decides (keysOf key) outcome ∨
        (∀ asked ∈ keysOf key, source.Lacks asked) ∧ outcome = .ok default := by
  constructor
  · rintro rfl
    rcases source.lacks_or_decides (keysOf key) with lacking | ⟨outcome, decides⟩
    · exact .inr ⟨lacking, getParam_of_lacks lacking⟩
    · rw [getParam_of_decides decides]
      exact .inl decides
  · rintro (decides | ⟨lacking, rfl⟩)
    · exact getParam_of_decides decides
    · exact getParam_of_lacks lacking

/-- A parameter that is there is found whatever the default is. -/
theorem getParam_of_present (present : getParam source key .null = .ok value)
    (something : value ≠ .null) (default : Value) : getParam source key default = .ok value := by
  rcases getParam_eq_iff.mp present with decides | ⟨-, nothing⟩
  · exact getParam_of_decides decides
  · exact absurd (Except.ok.inj nothing) something

theorem hasParam_eq (source : Source) (key : Value) :
    hasParam source key = (getParam source key .null).map fun value => !value.isNull := by
  rcases source.lacks_or_decides (keysOf key) with lacking | ⟨outcome, decides⟩
  · rw [hasParam_eq_find?, find?_of_lacks lacking, getParam_of_lacks lacking]
    rfl
  · rw [hasParam_eq_find?, find?_of_decides decides, getParam_of_decides decides]
    cases outcome with
    | error cause => rfl
    | ok value => simp [Except.map, decides.not_isNull]

theorem getText_eq (source : Source) (keys : List Value) (default : Value) :
    getText source keys default =
      getParam source (.list keys) .null >>= fun value =>
        if value.isNull then .ok default else value.toText.map .text := by
  rcases source.lacks_or_decides keys with lacking | ⟨outcome, decides⟩
  · have absent : getParam source (.list keys) .null = .ok .null := getParam_of_lacks lacking
    rw [getText, find?_of_lacks lacking, absent]
    rfl
  · have present : getParam source (.list keys) .null = outcome := getParam_of_decides decides
    rw [getText, find?_of_decides decides, present]
    cases outcome with
    | error cause => rfl
    | ok value =>
        rw [ok_bind, if_neg decides.not_isNull]
        change (value.toText >>= fun text => .ok (Value.text text)) = value.toText.map Value.text
        cases value.toText <;> rfl

/-! ## All accessors -/

/-- Whether a parameter is there, what it is and what its text is are three answers of one
search; keys that come to null do not change it, and neither does writing an integer key as
a text, where all keys of the parameters are texts. -/
theorem accessors_agree (source : Source) (key default : Value) :
    hasParam source key = (getParam source key .null).map (fun value => !value.isNull) ∧
      (∀ outcome, getParam source key default = outcome ↔
        source.Decides (keysOf key) outcome ∨
          (∀ asked ∈ keysOf key, source.Lacks asked) ∧ outcome = .ok default) ∧
      (∀ before, (∀ earlier ∈ before, source.Lacks earlier) →
        getParam source (.list (before ++ keysOf key)) default =
          getParam source key default) ∧
      (source.params.HasTextKeys → ∀ (number : Int) (text : String) (before after : List Value)
        (other : Value), (Value.int number).toText = .ok text →
        keysOf key = before ++ .int number :: after →
        keysOf other = before ++ .text text :: after →
          getParam source key default = getParam source other default ∧
          hasParam source key = hasParam source other ∧
          getText source (keysOf key) default = getText source (keysOf other) default) ∧
      getText source (keysOf key) default =
        getParam source key .null >>= fun value =>
          if value.isNull then .ok default else value.toText.map .text := by
  refine ⟨hasParam_eq source key, fun outcome => getParam_eq_iff, ?prepended, ?exchanged, ?text⟩
  case prepended =>
    intro before lacking
    have found : find? source (keysOf (.list (before ++ keysOf key))) =
        find? source (keysOf key) := find?_append lacking (keysOf key)
    rw [getParam, getParam, found]
  case exchanged =>
    intro textKeys number text before after other written asked spelled
    have found : find? source (keysOf key) = find? source (keysOf other) := by
      rw [asked, spelled]
      exact find?_exchange (lookup_eq_lookup_text textKeys written) before after
    exact ⟨by rw [getParam, getParam, found], by rw [hasParam_eq_find?, hasParam_eq_find?, found],
      by rw [getText, getText, found]⟩
  case text =>
    have listed : getParam source (.list (keysOf key)) .null = getParam source key .null := rfl
    rw [getText_eq, listed]

/-- Null under one key, a text under the decimal text of the next one. -/
theorem accessors_agree_positional :
    let source := Source.mapping (.ofTexts [("a", .null), ("1", .text "first"), ("n", .int 3)])
    let key := Value.list [.text "a", .int 1, .text "n"]
    source.params.HasTextKeys ∧ source.Lacks (.text "a") ∧ source.Lacks (.int 2) ∧
      (Value.int 1).toText = .ok "1" ∧
      getParam source (.list [.int 2, .text "a", .int 1, .text "n"]) .null = .ok (.text "first") ∧
      getParam source (.list [.text "a", .text "1", .text "n"]) .null = .ok (.text "first") ∧
      hasParam source key = .ok true := by
  intro source key
  obtain ⟨has, first, prepended, exchanged, -⟩ := accessors_agree source key .null
  have textKeys : source.params.HasTextKeys := by
    simp [source, Source.params, Source.params?, Entries.ofTexts, Entries.HasTextKeys]
  have nothing : source.Lacks (.text "a") := rfl
  have missing : source.Lacks (.int 2) := rfl
  have written : (Value.int 1).toText = .ok "1" := rfl
  have found : getParam source key .null = .ok (.text "first") := by
    refine (first _).mpr (.inl ⟨[.text "a"], .int 1, [.text "n"], rfl, ?_, rfl, by simp⟩)
    simpa using nothing
  refine ⟨textKeys, nothing, missing, written, ?_, ?_, ?_⟩
  · exact (prepended [.int 2] (by simpa using missing)).trans found
  · obtain ⟨same, -, -⟩ :=
      exchanged textKeys 1 "1" [.text "a"] [.text "n"]
        (.list [.text "a", .text "1", .text "n"]) written rfl rfl
    exact same.symm.trans found
  · rw [has, found]
    rfl

end Arguments

end CommandHost
