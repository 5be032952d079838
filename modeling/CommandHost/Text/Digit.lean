/-!
# Decimal digits

A decimal digit is any character with the Unicode property `Nd`. Such digits
come in runs of ten, from the digit zero to the digit nine of one script, so a
table of the zeros is enough. The main facts: a digit has a value below ten, the
ten ASCII digits have their usual values, and a number is read back from its
decimal digits.
-/

namespace CommandHost.Text

/-- The code of the digit zero of every script that has decimal digits. -/
def digitZeros : List Nat :=
  [0x30, 0x660, 0x6F0, 0x7C0, 0x966, 0x9E6, 0xA66, 0xAE6, 0xB66, 0xBE6, 0xC66, 0xCE6, 0xD66,
    0xDE6, 0xE50, 0xED0, 0xF20, 0x1040, 0x1090, 0x17E0, 0x1810, 0x1946, 0x19D0, 0x1A80, 0x1A90,
    0x1B50, 0x1BB0, 0x1C40, 0x1C50, 0xA620, 0xA8D0, 0xA900, 0xA9D0, 0xA9F0, 0xAA50, 0xABF0,
    0xFF10, 0x104A0, 0x10D30, 0x11066, 0x110F0, 0x11136, 0x111D0, 0x112F0, 0x11450, 0x114D0,
    0x11650, 0x116C0, 0x11730, 0x118E0, 0x11950, 0x11C50, 0x11D50, 0x11DA0, 0x16A60, 0x16AC0,
    0x16B50, 0x1D7CE, 0x1D7D8, 0x1D7E2, 0x1D7EC, 0x1D7F6, 0x1E140, 0x1E2F0, 0x1E950, 0x1FBF0]

/-- The value of a decimal digit of any script. -/
def digitValue? (c : Char) : Option Nat :=
  (digitZeros.find? fun first => first ≤ c.toNat && c.toNat ≤ first + 9).map fun first =>
    c.toNat - first

/-- Whether a character is a decimal digit of some script. -/
def isDigit (c : Char) : Bool := (digitValue? c).isSome

/-- The number written by a run of digits, most significant first, on top of the
digits that were read before it. A character that is no digit counts as zero. -/
def readDigits (sofar : Nat) (digits : List Char) : Nat :=
  digits.foldl (fun number c => number * 10 + (digitValue? c).getD 0) sofar

/-- Reads digits of any script, with single underscores allowed between two of them. -/
def readGrouped? : Nat → List Char → Option Nat
  | _, [] => none
  | sofar, [c] => (digitValue? c).map fun value => sofar * 10 + value
  | sofar, c :: '_' :: rest =>
    match digitValue? c with
    | some value => readGrouped? (sofar * 10 + value) rest
    | none => none
  | sofar, c :: rest =>
    match digitValue? c with
    | some value => readGrouped? (sofar * 10 + value) rest
    | none => none

/-- Reads an integer: an optional sign, then grouped digits. -/
def readInteger? : List Char → Option Int
  | '+' :: rest => (readGrouped? 0 rest).map fun number => (number : Int)
  | '-' :: rest => (readGrouped? 0 rest).map fun number => -(number : Int)
  | text => (readGrouped? 0 text).map fun number => (number : Int)

/-- Whether a character is one of the ten ASCII digits. -/
def isPlainDigit (c : Char) : Bool := '0' ≤ c && c ≤ '9'

/-- The value of a hexadecimal digit. -/
def hexValue? (c : Char) : Option Nat :=
  let code := c.toNat
  if 48 ≤ code && code ≤ 57 then some (code - 48)
  else if 97 ≤ code && code ≤ 102 then some (code - 87)
  else if 65 ≤ code && code ≤ 70 then some (code - 55)
  else none

/-- The number written by digits in a base up to sixteen; `none` if the text is
empty or a character is no digit of the base. -/
def readBase? (base : Nat) : List Char → Option Nat
  | [] => none
  | digits => digits.foldl (fun number c =>
      match number, hexValue? c with
      | some n, some d => if d < base then some (n * base + d) else none
      | _, _ => none) (some 0)

/-- The lower-case hexadecimal digits of a number, at least `width` of them. -/
def hexDigits (width number : Nat) : List Char :=
  let digits := Nat.toDigits 16 number
  List.replicate (width - digits.length) '0' ++ digits

/-! ## Small facts -/

/-- A digit has a value below ten. -/
theorem digitValue?_lt {c : Char} {value : Nat} (digit : digitValue? c = some value) :
    value < 10 := by
  simp only [digitValue?, Option.map_eq_some_iff] at digit
  obtain ⟨first, found, rfl⟩ := digit
  have bounds := List.find?_some found
  simp only [Bool.and_eq_true, decide_eq_true_eq] at bounds
  omega

/-- An ASCII digit has its usual value. -/
theorem digitValue?_of_isDigit {c : Char} (digit : c.isDigit = true) :
    digitValue? c = some (c.toNat - '0'.toNat) := by
  have bounds : 0x30 ≤ c.toNat ∧ c.toNat ≤ 0x30 + 9 := by
    simpa [Char.isDigit, UInt32.le_iff_toNat_le] using digit
  have first :
      digitZeros.find? (fun first => first ≤ c.toNat && c.toNat ≤ first + 9) = some 0x30 :=
    List.find?_cons_of_pos (by simpa using bounds)
  rw [digitValue?, first]
  rfl

theorem isDigit_of_plain {c : Char} (digit : c.isDigit = true) : isDigit c = true := by
  rw [isDigit, digitValue?_of_isDigit digit]
  rfl

theorem readDigits_eq_ofDigitChars {digits : List Char} (plain : ∀ c ∈ digits, c.isDigit = true)
    (sofar : Nat) : readDigits sofar digits = Nat.ofDigitChars 10 digits sofar := by
  induction digits generalizing sofar with
  | nil => simp [readDigits]
  | cons c rest inductionHypothesis =>
    obtain ⟨digit, others⟩ := List.forall_mem_cons.mp plain
    rw [Nat.ofDigitChars_cons, ← inductionHypothesis others, readDigits, List.foldl_cons,
      digitValue?_of_isDigit digit, Option.getD_some, Nat.mul_comm]
    rfl

/-- A number is read back from its decimal digits. -/
theorem readDigits_toDigits (number : Nat) : readDigits 0 (Nat.toDigits 10 number) = number := by
  rw [readDigits_eq_ofDigitChars fun c => Nat.isDigit_of_mem_toDigits (by decide) (by decide),
    Nat.ofDigitChars_ten_toDigits]

end CommandHost.Text
