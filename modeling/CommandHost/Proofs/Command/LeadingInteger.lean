import CommandHost.Proofs.Command.Agreement
import Mathlib.Data.List.TakeWhile

/-!
# The integer at the beginning of a text

`getInt` reads the integer with which the text of a parameter begins: behind blanks and
perhaps a sign, the digits up to the first character that is none.  `BeginsWith` says this
without the reader, and `Shows` says how an integer stands printed at the beginning of a text.

The main statement: an integer that is not too long is read back from every text that shows
it, and a text gives the default exactly if it begins with no digits at all.  Too many digits
do not give the default; they are refused.
-/

namespace CommandHost

namespace Text

/-- No digit of any script is a blank. -/
theorem isBlank_of_isDigit {c : Char} (digit : isDigit c = true) : isBlank c = false := by
  have apart : ∀ first ∈ digitZeros, 32 < first ∧
      (first + 9 < 0x85 ∨ 0xA0 < first ∧ first + 9 < 0x1680 ∨
        0x1680 < first ∧ first + 9 < 0x2000 ∨ 0x3000 < first) := by decide
  obtain ⟨value, isValue⟩ := Option.isSome_iff_exists.mp digit
  simp only [digitValue?, Option.map_eq_some_iff] at isValue
  obtain ⟨first, found, -⟩ := isValue
  have bounds := List.find?_some found
  have gaps := apart first (List.mem_of_find?_eq_some found)
  simp only [Bool.and_eq_true, decide_eq_true_eq] at bounds
  simp [isBlank]
  omega

/-- A run of digits is cut off where no digit follows. -/
theorem takeWhile_isDigit_append {digits rest : List Char}
    (numeric : ∀ c ∈ digits, isDigit c = true) (ended : ∀ c ∈ rest.head?, isDigit c = false) :
    (digits ++ rest).takeWhile isDigit = digits := by
  have nothing : rest.takeWhile isDigit = [] := by
    cases rest with
    | nil => rfl
    | cons c others => exact List.takeWhile_cons_of_neg (by simp [ended c rfl])
  rw [List.takeWhile_append_of_pos numeric, nothing, List.append_nil]

end Text

namespace Arguments

open Text

variable {text blanks sign digits rest : List Char} {negative : Bool} {number : Int}

/-! ## What a text begins with -/

/-- A sign in front of digits, and whether it makes the integer negative. -/
inductive Sign : List Char → Bool → Prop
  | absent : Sign [] false
  | plus : Sign ['+'] false
  | minus : Sign ['-'] true

/-- A text begins with an integer: behind blanks and a sign stand digits, of whatever script,
and no further digit follows them. -/
inductive BeginsWith : List Char → Bool → List Char → Prop
  | intro {blanks sign digits rest : List Char} {negative : Bool}
      (blank : isBlankText blanks = true) (signed : Sign sign negative)
      (nonempty : digits ≠ []) (numeric : ∀ c ∈ digits, isDigit c = true)
      (ended : ∀ c ∈ rest.head?, isDigit c = false) :
      BeginsWith (blanks ++ (sign ++ (digits ++ rest))) negative digits

/-- The integer that a sign and digits write. -/
def integerOf (negative : Bool) (digits : List Char) : Int :=
  if negative then -(readDigits 0 digits : Int) else readDigits 0 digits

/-- The first character behind the blanks is a sign or a digit. -/
theorem Sign.dropWhile_isBlank (signed : Sign sign negative) (nonempty : digits ≠ [])
    (numeric : ∀ c ∈ digits, isDigit c = true) :
    (sign ++ (digits ++ rest)).dropWhile isBlank = sign ++ (digits ++ rest) := by
  obtain ⟨first, others, rfl⟩ := List.exists_cons_of_ne_nil nonempty
  have solid : isBlank first = false := isBlank_of_isDigit (numeric first List.mem_cons_self)
  apply dropWhile_isBlank_eq_self
  intro c isFirst
  cases signed with
  | absent =>
      obtain rfl : first = c := by simpa using isFirst
      exact solid
  | plus =>
      obtain rfl : '+' = c := by simpa using isFirst
      decide
  | minus =>
      obtain rfl : '-' = c := by simpa using isFirst
      decide

theorem leadingDigits?_of_beginsWith (begins : BeginsWith text negative digits) :
    leadingDigits? text = some (negative, digits) := by
  obtain @⟨blanks, sign, digits, rest, negative, blank, signed, nonempty, numeric, ended⟩ :=
    begins
  have trimmed :
      (blanks ++ (sign ++ (digits ++ rest))).dropWhile isBlank = sign ++ (digits ++ rest) := by
    rw [List.dropWhile_append_of_pos (List.all_eq_true.mp blank),
      signed.dropWhile_isBlank nonempty numeric]
  have run := takeWhile_isDigit_append numeric ended
  simp only [leadingDigits?, trimmed]
  cases signed with
  | absent =>
      obtain ⟨first, others, rfl⟩ := List.exists_cons_of_ne_nil nonempty
      have digit := numeric first List.mem_cons_self
      have unsigned : first ≠ '-' ∧ first ≠ '+' := by
        constructor <;> rintro rfl <;> exact absurd digit (by decide)
      simp only [List.nil_append, List.cons_append] at run ⊢
      simp [unsigned, run]
  | plus => simp [run, nonempty]
  | minus => simp [run, nonempty]

/-- Digits behind blanks and a sign, up to where they end. -/
theorem Sign.beginsWith (signed : Sign sign negative) (blank : isBlankText blanks = true)
    {unsigned : List Char} (nonempty : unsigned.takeWhile isDigit ≠ []) :
    BeginsWith (blanks ++ (sign ++ unsigned)) negative (unsigned.takeWhile isDigit) := by
  have ended : ∀ c ∈ (unsigned.dropWhile isDigit).head?, isDigit c = false := by
    intro c isFirst
    have noDigit := List.head?_dropWhile_not isDigit unsigned
    rwa [Option.mem_def.mp isFirst] at noDigit
  have numeric : ∀ c ∈ unsigned.takeWhile isDigit, isDigit c = true :=
    fun c member => List.mem_takeWhile_imp member
  have begins := BeginsWith.intro blank signed nonempty numeric ended
  rwa [List.takeWhile_append_dropWhile] at begins

/-- Behind the blanks of a text a sign is cut off, if only the empty one. -/
theorem exists_sign (text : List Char) :
    ∃ sign negative unsigned, Sign sign negative ∧
      text = text.takeWhile isBlank ++ (sign ++ unsigned) ∧
      leadingDigits? text =
        if (unsigned.takeWhile isDigit).isEmpty then none
        else some (negative, unsigned.takeWhile isDigit) := by
  have whole := (List.takeWhile_append_dropWhile (p := isBlank) (l := text)).symm
  unfold leadingDigits?
  generalize text.dropWhile isBlank = trimmed at whole ⊢
  cases trimmed with
  | nil => exact ⟨[], false, [], .absent, whole, rfl⟩
  | cons first rest =>
      by_cases minus : first = '-'
      · subst minus
        exact ⟨['-'], true, rest, .minus, whole, rfl⟩
      · by_cases plus : first = '+'
        · subst plus
          exact ⟨['+'], false, rest, .plus, whole, rfl⟩
        · exact ⟨[], false, first :: rest, .absent, whole, by simp [minus, plus]⟩

/-- The reader finds exactly what a text begins with. -/
theorem leadingDigits?_eq_some_iff :
    leadingDigits? text = some (negative, digits) ↔ BeginsWith text negative digits := by
  constructor
  · intro leading
    obtain ⟨sign, minus, unsigned, signed, whole, read⟩ := exists_sign text
    have blank : isBlankText (text.takeWhile isBlank) = true := List.all_takeWhile
    rw [read] at leading
    split at leading
    · cases leading
    · next nonempty =>
      obtain ⟨rfl, rfl⟩ := Prod.mk.inj (Option.some.inj leading)
      rw [whole]
      exact signed.beginsWith blank (by simpa using nonempty)
  · exact leadingDigits?_of_beginsWith

theorem leadingDigits?_eq_none_iff :
    leadingDigits? text = none ↔ ∀ negative digits, ¬ BeginsWith text negative digits := by
  rw [Option.eq_none_iff_forall_ne_some, Prod.forall]
  exact forall₂_congr fun _ _ => not_congr leadingDigits?_eq_some_iff

/-! ## Printed integers -/

/-- A text shows an integer at its beginning: behind blanks stands what the integer prints
as, perhaps with a plus sign if it is not negative, and no digit follows. -/
inductive Shows (number : Int) : List Char → Prop
  | intro {blanks plus rest : List Char} (blank : isBlankText blanks = true)
      (positive : plus = [] ∨ plus = ['+'] ∧ 0 ≤ number)
      (ended : ∀ c ∈ rest.head?, isDigit c = false) :
      Shows number (blanks ++ (plus ++ ((intText number).toList ++ rest)))

theorem integerOf_toDigits (number : Int) :
    integerOf (decide (number < 0)) (Nat.toDigits 10 number.natAbs) = number := by
  rw [integerOf, readDigits_toDigits]
  split <;> simp only [decide_eq_true_eq] at * <;> omega

theorem Shows.beginsWith (shows : Shows number text) :
    BeginsWith text (decide (number < 0)) (Nat.toDigits 10 number.natAbs) := by
  obtain @⟨blanks, plus, rest, blank, positive, ended⟩ := shows
  have nonempty : Nat.toDigits 10 number.natAbs ≠ [] := Nat.toDigits_ne_nil
  have numeric : ∀ c ∈ Nat.toDigits 10 number.natAbs, isDigit c = true := fun c member =>
    isDigit_of_plain (Nat.isDigit_of_mem_toDigits (by decide) (by decide) member)
  by_cases negative : number < 0
  · have printed : (intText number).toList = '-' :: Nat.toDigits 10 number.natAbs := by
      simp [intText, negative]
    obtain rfl : plus = [] := by
      rcases positive with unsigned | ⟨-, nonnegative⟩
      · exact unsigned
      · omega
    simpa [printed, negative] using BeginsWith.intro blank .minus nonempty numeric ended
  · have printed : (intText number).toList = Nat.toDigits 10 number.natAbs := by
      simp [intText, negative]
    rw [printed, decide_eq_false negative]
    rcases positive with rfl | ⟨rfl, -⟩
    · exact .intro blank .absent nonempty numeric ended
    · exact .intro blank .plus nonempty numeric ended

/-- What an integer prints as shows it. -/
theorem shows_intText (number : Int) : Shows number (intText number).toList := by
  have shows : Shows number ([] ++ ([] ++ ((intText number).toList ++ []))) :=
    .intro rfl (.inl rfl) (by simp)
  simpa using shows

theorem leadingDigits?_intText (number : Int) :
    leadingDigits? (intText number).toList =
      some (decide (number < 0), Nat.toDigits 10 number.natAbs) :=
  leadingDigits?_of_beginsWith (shows_intText number).beginsWith

/-! ## Reading a parameter that is there -/

variable {source : Source} {key value : Value} {content : String}

/-- The digits with which the text of a parameter begins are read, unless they are too many. -/
theorem getInt_of_beginsWith (present : getParam source key .null = .ok value)
    (something : value ≠ .null) (written : value.toText = .ok content)
    (begins : BeginsWith content.toList negative digits) (default : Value) :
    getInt source key default =
      if digits.length ≤ digitLimit then .ok (.int (integerOf negative digits))
      else .error (.longNumber digits.length) := by
  rw [getInt, getParam_of_present present something default, ok_bind, written, ok_bind,
    leadingDigits?_of_beginsWith begins]
  by_cases short : digits.length ≤ digitLimit
  · simp [short, Nat.not_lt.mpr short, integerOf]
  · simp [short, Nat.lt_of_not_le short]

/-- Where the text of a parameter begins with no digits the default takes its place. -/
theorem getInt_of_not_beginsWith (present : getParam source key .null = .ok value)
    (something : value ≠ .null) (written : value.toText = .ok content)
    (bare : ∀ negative digits, ¬ BeginsWith content.toList negative digits) (default : Value) :
    getInt source key default = .ok default := by
  rw [getInt, getParam_of_present present something default, ok_bind, written, ok_bind,
    leadingDigits?_eq_none_iff.mpr bare]
  rfl

theorem getInt_of_shows (present : getParam source key .null = .ok value)
    (something : value ≠ .null) (written : value.toText = .ok content)
    (short : (Nat.toDigits 10 number.natAbs).length ≤ digitLimit)
    (shows : Shows number content.toList) (default : Value) :
    getInt source key default = .ok (.int number) := by
  rw [getInt_of_beginsWith present something written shows.beginsWith default, if_pos short,
    integerOf_toDigits]

/-- An integer that is not too long is read back from every text that shows it, and from
itself, whatever the default is.  A text gives every default as it is exactly if it does not
begin with an integer; if it does, the integer is read, unless it has too many digits. -/
theorem getInt_reads_iff (source : Source) (key : Value) :
    (∀ number : Int, (Nat.toDigits 10 number.natAbs).length ≤ digitLimit →
      (∀ content : String, Shows number content.toList →
        getParam source key .null = .ok (.text content) →
          ∀ default, getInt source key default = .ok (.int number)) ∧
      (getParam source key .null = .ok (.int number) →
        ∀ default, getInt source key default = .ok (.int number))) ∧
    ∀ content : String, getParam source key .null = .ok (.text content) →
      ((∀ default, getInt source key default = .ok default) ↔
        ∀ negative digits, ¬ BeginsWith content.toList negative digits) ∧
      ∀ negative digits, BeginsWith content.toList negative digits →
        ∀ default, getInt source key default =
          if digits.length ≤ digitLimit then .ok (.int (integerOf negative digits))
          else .error (.longNumber digits.length) := by
  refine ⟨fun number short => ⟨?shown, ?integer⟩, fun content present => ⟨⟨?bare, ?kept⟩, ?read⟩⟩
  case shown =>
    intro content shows present default
    exact getInt_of_shows present (by simp) (Value.toText_text content) short shows default
  case integer =>
    intro present default
    have fits : number.natAbs < 10 ^ digitLimit :=
      (Nat.length_toDigits_le_iff (by decide) (by decide)).mp short
    have written : (Value.int number).toText = .ok (intText number) :=
      Value.toText_eq_ok_iff.mpr ⟨(Value.isWritable_int_iff number).mpr fits, rfl⟩
    exact getInt_of_shows present (by simp) written short (shows_intText number) default
  case bare =>
    -- Null as the default cannot come out of digits: they give an integer or a failure.
    intro unchanged negative digits begins
    have outcome := getInt_of_beginsWith present (by simp) (Value.toText_text content) begins .null
    rw [unchanged .null] at outcome
    split at outcome <;> simp at outcome
  case kept =>
    intro bare default
    exact getInt_of_not_beginsWith present (by simp) (Value.toText_text content) bare default
  case read =>
    intro negative digits begins default
    exact getInt_of_beginsWith present (by simp) (Value.toText_text content) begins default

/-- A width, a negative integer, a text that begins with no digit, and digits of another
script. -/
theorem getInt_reads_iff_width :
    let source := Source.mapping
      (.ofTexts [("width", .text "\t+12px"), ("depth", .int (-7)), ("unit", .text "- 3"),
        ("shift", .text "-०३m")])
    Shows 12 "\t+12px".toList ∧
      getInt source (.text "width") .null = .ok (.int 12) ∧
      getInt source (.text "depth") .null = .ok (.int (-7)) ∧
      getInt source (.text "unit") (.text "px") = .ok (.text "px") ∧
      BeginsWith "-०३m".toList true ['०', '३'] ∧
      getInt source (.text "shift") .null = .ok (.int (-3)) := by
  intro source
  have short (number : Int) (fits : number.natAbs < 10 ^ 2) :
      (Nat.toDigits 10 number.natAbs).length ≤ digitLimit :=
    (Nat.length_toDigits_le_iff (by decide) (by decide)).mpr
      (lt_of_lt_of_le fits (Nat.pow_le_pow_right (by decide) (by decide)))
  have unitEnds : ∀ c ∈ ['p', 'x'].head?, isDigit c = false := by
    intro c isFirst
    obtain rfl : 'p' = c := by simpa using isFirst
    decide
  have shows : Shows 12 (['\t'] ++ (['+'] ++ ((intText 12).toList ++ ['p', 'x']))) :=
    .intro rfl (.inr ⟨rfl, by decide⟩) unitEnds
  obtain ⟨width, -⟩ := getInt_reads_iff source (.text "width")
  obtain ⟨depth, -⟩ := getInt_reads_iff source (.text "depth")
  obtain ⟨-, unit⟩ := getInt_reads_iff source (.text "unit")
  obtain ⟨-, shift⟩ := getInt_reads_iff source (.text "shift")
  have begins : BeginsWith "-०३m".toList true ['०', '३'] := leadingDigits?_eq_some_iff.mp rfl
  refine ⟨shows, ?_, ?_, ?_, begins, ?_⟩
  · exact (width 12 (short 12 (by decide))).1 "\t+12px" shows rfl .null
  · exact (depth (-7) (short (-7) (by decide))).2 rfl .null
  · exact (unit "- 3" rfl).1.mpr (leadingDigits?_eq_none_iff.mp rfl) (.text "px")
  · exact (shift "-०३m" rfl).2 true ['०', '३'] begins .null

/-- A run of more digits than are read shows no integer that can be read, and still it does
not give the default. -/
theorem longRun_gives_no_default :
    (∀ number : Int, (Nat.toDigits 10 number.natAbs).length ≤ digitLimit →
        ¬ Shows number longRun.toList) ∧
      getParam (.mapping (.ofTexts [("v", .text longRun)])) (.text "v") .null =
        .ok (.text longRun) ∧
      getInt (.mapping (.ofTexts [("v", .text longRun)])) (.text "v") (.int 7) =
        .error (.longNumber (digitLimit + 1)) := by
  have leading :
      leadingDigits? longRun.toList = some (false, List.replicate (digitLimit + 1) '1') := by
    rw [longRun, String.toList_ofList, leadingDigits?_replicate]
  have present :
      getParam (.mapping (.ofTexts [("v", .text longRun)])) (.text "v") .null =
        .ok (.text longRun) :=
    getParam_text _ "v" .null
  refine ⟨?_, present, ?_⟩
  · intro number short shows
    have same := leading.symm.trans (leadingDigits?_of_beginsWith shows.beginsWith)
    obtain ⟨-, digits⟩ := Prod.mk.inj (Option.some.inj same)
    rw [← digits, List.length_replicate] at short
    omega
  · have begins := leadingDigits?_eq_some_iff.mp leading
    rw [getInt_of_beginsWith present (by simp) (Value.toText_text longRun) begins,
      List.length_replicate, if_neg (by omega)]

end Arguments

end CommandHost
