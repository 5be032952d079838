import CommandHost.Proofs.Command.LeadingInteger
import Mathlib.Data.List.TakeWhile

/-!
# A missing parameter and its default

A parameter that is missing gives the caller's default.  Three accessors bring the default
to the kind of a parameter first, as they do with a parameter that is there.  The main
statement says for each accessor when the default comes out unchanged: reading a truth value
changes no truth value and reading an integer no integer that can be written out, but a
default text that can be read as JSON is replaced by what it says.
-/

namespace CommandHost

/-! ## Texts in JSON -/

namespace Json

variable {text after : List Char} {content : String}

theorem hex4?_length {code : Nat} (read : hex4? text = some (code, after)) :
    after.length + 4 = text.length := by
  unfold hex4? at read
  split at read
  · simp only [Option.map_eq_some_iff, Prod.mk.injEq] at read
    obtain ⟨_, _, -, rfl⟩ := read
    simp
  · cases read

theorem unicodeEscape?_length {code : Char} (read : unicodeEscape? text = some (code, after)) :
    after.length < text.length := by
  unfold unicodeEscape? at read
  cases first : hex4? text with
  | none => simp [first] at read
  | some unit =>
      obtain ⟨high, rest⟩ := unit
      have firstLength := hex4?_length first
      have shorter : after.length ≤ rest.length := by
        simp only [first] at read
        split at read
        · -- The code may be the first one of a pair.
          split at read
          · split at read
            · next second =>
              have secondLength := hex4?_length second
              split at read <;> obtain ⟨-, rfl⟩ := Prod.mk.inj (Option.some.inj read)
              · simp only [List.length_cons]
                omega
              · exact le_rfl
            · exact (Prod.mk.inj (Option.some.inj read)).2 ▸ le_rfl
          · exact (Prod.mk.inj (Option.some.inj read)).2 ▸ le_rfl
        · exact (Prod.mk.inj (Option.some.inj read)).2 ▸ le_rfl
      omega

/-- Every character that is read takes at least one of the text, and so does the closing
quote. -/
theorem readChars_length {steps : Nat} {reversed : List Char}
    (read : readChars steps reversed text = some (content, after)) :
    content.length + after.length < reversed.length + text.length := by
  induction steps generalizing reversed text with
  | zero => simp [readChars] at read
  | succ steps inductionHypothesis =>
      cases text with
      | nil => simp [readChars] at read
      | cons c rest =>
          have step {next : Char} {others : List Char} (shorter : others.length ≤ rest.length)
              (readOn : readChars steps (next :: reversed) others = some (content, after)) :
              content.length + after.length < reversed.length + (c :: rest).length := by
            have further := inductionHypothesis readOn
            simp only [List.length_cons] at further ⊢
            omega
          simp only [readChars] at read
          split at read
          · -- The closing quote.
            obtain ⟨rfl, rfl⟩ := Prod.mk.inj (Option.some.inj read)
            simp
          · split at read
            · -- An escape, of a code or a short one.
              split at read
              · split at read
                · next escape =>
                  exact step (Nat.le_succ_of_le (unicodeEscape?_length escape).le) read
                · cases read
              · split at read
                · exact step (Nat.le_succ _) read
                · cases read
              · cases read
            · -- A character that stands for itself.
              split at read
              · cases read
              · exact step le_rfl read

theorem readNumber_ne_text : readNumber text ≠ some (.text content, after) := by
  intro read
  simp only [readNumber] at read
  repeat' split at read
  all_goals cases read

/-- A value that does not begin with a quote is no text. -/
theorem readValue_ne_text {c : Char} {steps depth : Nat} {rest : List Char}
    (unquoted : c ≠ '"') :
    readValue (steps + 1) depth (c :: rest) ≠ some (.text content, after) := by
  intro read
  simp only [readValue, if_neg unquoted] at read
  repeat' split at read
  all_goals first
    | exact readNumber_ne_text read
    | simp [Option.map_eq_some_iff] at read

theorem readValue_text_length {steps depth : Nat}
    (read : readValue steps depth text = some (.text content, after)) :
    content.length < text.length := by
  cases steps with
  | zero => simp [readValue] at read
  | succ steps =>
      cases text with
      | nil => simp [readValue] at read
      | cons c rest =>
          by_cases quoted : c = '"'
          · simp only [readValue, if_pos quoted, Option.map_eq_some_iff, Prod.exists,
              Prod.mk.injEq, Value.atom.injEq, Atom.text.injEq] at read
            obtain ⟨_, _, within, rfl, rfl⟩ := read
            have shorter := readChars_length within
            simp only [List.length_nil, List.length_cons] at shorter ⊢
            omega
          · exact absurd read (readValue_ne_text quoted)

/-- A text is shorter than what it is read from, so that no text says itself. -/
theorem read?_text_length {text : String} (read : read? text = some (.text content)) :
    content.length < text.length := by
  unfold read? at read
  extract_lets chars at read
  split at read
  · next start =>
    split at read
    · obtain rfl := Option.some.inj read
      have shorter := readValue_text_length start
      have trimmed : (skipSpace text.toList).length ≤ text.toList.length :=
        List.length_dropWhile_le isSpace text.toList
      exact shorter.trans_le trimmed
    · cases read
  · cases read

end Json

namespace Arguments

variable {source : Source} {keys : List Value} {key default : Value}

/-! ## Accessors without a parameter -/

theorem getParam_default (missing : source.sought (keysOf key) = none) (value : Value) :
    getParam source key default = .ok value ↔
      source.Searchable (keysOf key) ∧ value = default := by
  rw [getParam_eq_ok_iff, Source.soughtOr, missing, Option.getD_none]

theorem getText_default (missing : source.sought keys = none) :
    getText source keys default = .ok default ↔ source.Searchable keys := by
  simp [getText, bind_eq_ok_iff, find?_eq_ok_iff, missing]

theorem getBool_default (missing : source.sought (keysOf key) = none) (flag : Bool) :
    getBool source key (.bool flag) = .ok flag ↔ source.Searchable (keysOf key) := by
  simp [getBool, bind_eq_ok_iff, getParam_default missing, toBool, Value.truthy]

/-- An integer that can be written out is read back from its text. -/
theorem getInt_default (missing : source.sought (keysOf key) = none) (number : Int) :
    getInt source key (.int number) = .ok (.int number) ↔
      source.Searchable (keysOf key) ∧ number.natAbs < 10 ^ digitLimit := by
  have written (text : String) :
      (Value.int number).toText = .ok text ↔
        number.natAbs < 10 ^ digitLimit ∧ text = intText number := by
    rw [Value.toText_eq_ok_iff, Value.isWritable_int_iff]
    rfl
  have digits : (Nat.toDigits 10 number.natAbs).length ≤ digitLimit ↔
      number.natAbs < 10 ^ digitLimit :=
    Nat.length_toDigits_le_iff (by decide) (by decide)
  have signed : (if decide (number < 0) = true then -(number.natAbs : Int)
      else (number.natAbs : Int)) = number := by
    split <;> simp only [decide_eq_true_eq] at * <;> omega
  simp only [getInt, bind_eq_ok_iff, getParam_default missing, and_assoc, exists_and_left,
    exists_eq_left, written]
  apply and_congr_right
  intro _
  constructor
  · rintro ⟨fits, -⟩
    exact fits
  · intro fits
    -- The text of the default begins with all its digits, and these are not too many.
    refine ⟨fits, ?_⟩
    rw [leadingDigits?_intText]
    simp only [if_neg (Nat.not_lt.mpr (digits.mpr fits)), Text.readDigits_toDigits, signed,
      pure_eq_ok]

/-- A default text comes out of the reader of JSON only if it cannot be read. -/
theorem getJson_default (missing : source.sought (keysOf key) = none) :
    getJson source key default = .ok default ↔
      source.Searchable (keysOf key) ∧
        ∀ content, default = .text content → Json.read? content = none := by
  have same :
      (toJson? default).getD default = default ↔
        ∀ content, default = .text content → Json.read? content = none := by
    match default with
    | .text content =>
        cases read : Json.read? content with
        | none => simp [toJson?, read]
        | some value =>
            have different : value ≠ .text content := by
              -- A text would have to be shorter than itself.
              rintro rfl
              exact lt_irrefl _ (Json.read?_text_length read)
            simp [toJson?, read, different]
    | .list items => simp [toJson?]
    | .map entries => simp [toJson?]
    | .null | .bool _ | .int _ | .float _ | .object _ | .atom (.moment _) => simp [toJson?]
  simp only [getJson, bind_eq_ok_iff, getParam_default missing, and_assoc, exists_and_left,
    exists_eq_left, pure_eq_ok, Except.ok.injEq, same]

/-! ## The defaults of all accessors -/

/-- Where no key holds a value other than null, the accessors give their defaults as they are
exactly if the keys can be searched and, of an integer, if it can be written out, and of a
text that may be JSON, if it is none. -/
theorem accessors_default_iff (missing : source.sought (keysOf key) = none)
    (absent : source.sought keys = none) (default : Value) (text : Option String)
    (flag : Bool) (number : Int) :
    (getParam source key default = .ok default ↔ source.Searchable (keysOf key)) ∧
      (getText source keys (.optionalText text) = .ok (.optionalText text) ↔
        source.Searchable keys) ∧
      (getBool source key (.bool flag) = .ok flag ↔ source.Searchable (keysOf key)) ∧
      (getInt source key (.int number) = .ok (.int number) ↔
        source.Searchable (keysOf key) ∧ number.natAbs < 10 ^ digitLimit) ∧
      (getJson source key default = .ok default ↔
        source.Searchable (keysOf key) ∧
          ∀ content, default = .text content → Json.read? content = none) :=
  ⟨(getParam_default missing default).trans (and_iff_left rfl), getText_default absent,
    getBool_default missing flag, getInt_default missing number, getJson_default missing⟩

/-- Two keys, one of them with null, and defaults of each kind. -/
theorem accessors_default_iff_nullParameter :
    (Source.mapping (.ofTexts [("a", .null)])).sought (keysOf (.list [.text "a", .text "b"])) =
        none ∧
      getInt (.mapping (.ofTexts [("a", .null)])) (.list [.text "a", .text "b"]) (.int (-12)) =
        .ok (.int (-12)) ∧
      getJson (.mapping (.ofTexts [("a", .null)])) (.list [.text "a", .text "b"]) (.text "a]") =
        .ok (.text "a]") := by
  have missing :
      (Source.mapping (.ofTexts [("a", .null)])).sought
        (keysOf (.list [.text "a", .text "b"])) = none := rfl
  have searchable :
      (Source.mapping (.ofTexts [("a", .null)])).Searchable
        (keysOf (.list [.text "a", .text "b"])) := by
    apply Source.searchable_of_texts
    simp [keysOf, Value.items?]
  obtain ⟨-, -, -, number, -⟩ :=
    accessors_default_iff missing missing .null none false (-12)
  obtain ⟨-, -, -, -, json⟩ :=
    accessors_default_iff missing missing (.text "a]") none false 0
  have short : (-12 : Int).natAbs < 10 ^ digitLimit :=
    lt_of_lt_of_le (by decide : 12 < 10 ^ 2) (Nat.pow_le_pow_right (by decide) (by decide))
  refine ⟨missing, number.mpr ⟨searchable, short⟩, json.mpr ⟨searchable, ?_⟩⟩
  rintro content same
  obtain rfl : "a]" = content := by simpa using same
  rfl

/-- A default text in JSON is read as one. -/
theorem getJson_jsonDefault :
    (Source.mapping []).sought (keysOf (.text "k")) = none ∧
      getJson (.mapping []) (.text "k") (.text "[1]") = .ok (.list [.int 1]) ∧
      getJson (.mapping []) (.text "k") (.text "[1]") ≠ .ok (.text "[1]") := by
  have read : getJson (.mapping []) (.text "k") (.text "[1]") = .ok (.list [.int 1]) := rfl
  refine ⟨rfl, read, ?_⟩
  rw [read]
  rintro impossible
  cases impossible

end Arguments

end CommandHost
