import CommandHost.Error.IllegalUse
import CommandHost.Text.Digit
import CommandHost.Text.Pieces

/-!
# Reading JSON

The reader follows the JSON grammar, with three words for numbers that are not
finite. Space, tab, line feed and carriage return may stand between tokens. A
number with a fraction or an exponent is a floating-point number, any other one
an integer of any size up to the limit of digits. The last of several entries
with one key wins. Texts that nest deeper than `Json.depthLimit` are refused.
-/

namespace CommandHost.Json

/-- The deepest nesting of lists and mappings that is read. -/
def depthLimit : Nat := 1000

/-- The rest of a text after a value, or nothing if no value begins there. -/
abbrev Step (α : Type) := Option (α × List Char)

/-- The characters that may stand between tokens. -/
def isSpace (c : Char) : Bool := c == ' ' || c == '\t' || c == '\n' || c == '\r'

/-- The text without the spaces at its beginning. -/
def skipSpace (text : List Char) : List Char := text.dropWhile isSpace

/-- The rest of a text after a word that it begins with. -/
def afterWord? (word : String) (text : List Char) : Option (List Char) :=
  if word.toList.isPrefixOf text then some (text.drop word.length) else none

/-- The code that four hexadecimal digits write. -/
def hex4? : List Char → Step Nat
  | a :: b :: c :: d :: rest => (Text.readBase? 16 [a, b, c, d]).map fun code => (code, rest)
  | _ => none

/-- The character of a short escape. -/
def shortEscape? : Char → Option Char
  | '"' => some '"'
  | '\\' => some '\\'
  | '/' => some '/'
  | 'b' => some '\x08'
  | 'f' => some '\x0c'
  | 'n' => some '\n'
  | 'r' => some '\r'
  | 't' => some '\t'
  | _ => none

/-- Reads what follows a backslash and `u`: one code unit, or two that form a pair. A
unit of a pair that stands alone is read as the replacement character. -/
def unicodeEscape? (text : List Char) : Step Char :=
  match hex4? text with
  | none => none
  | some (high, rest) =>
    let alone := some (if 0xD800 ≤ high && high ≤ 0xDFFF then '\ufffd' else Char.ofNat high, rest)
    if 0xD800 ≤ high && high ≤ 0xDBFF then
      match rest with
      | '\\' :: 'u' :: tail =>
        match hex4? tail with
        | some (low, after) =>
          if 0xDC00 ≤ low && low ≤ 0xDFFF then
            some (Char.ofNat (0x10000 + (high - 0xD800) * 0x400 + (low - 0xDC00)), after)
          else alone
        | none => alone
      | _ => alone
    else alone

/-- Reads the characters of a text up to the closing quote. The first argument bounds
their number; `reversed` holds those that were read. -/
def readChars : Nat → List Char → List Char → Step String
  | 0, _, _ => none
  | _, _, [] => none
  | steps + 1, reversed, c :: rest =>
    if c = '"' then some (String.ofList reversed.reverse, rest)
    else if c = '\\' then
      match rest with
      | 'u' :: tail =>
        match unicodeEscape? tail with
        | some (code, after) => readChars steps (code :: reversed) after
        | none => none
      | e :: tail =>
        match shortEscape? e with
        | some code => readChars steps (code :: reversed) tail
        | none => none
      | [] => none
    else if c.toNat < 0x20 then none
    else readChars steps (c :: reversed) rest

/-- Reads a text whose opening quote was read. -/
def readText (text : List Char) : Step String := readChars (text.length + 1) [] text

/-- The digits at the beginning of a text, and the rest. -/
def spanDigits (text : List Char) : List Char × List Char := text.span Text.isPlainDigit

/-- The part of a number after its point: at least one digit. -/
def fraction? : List Char → Step (List Char)
  | '.' :: rest =>
    let (digits, after) := spanDigits rest
    if digits.isEmpty then none else some (digits, after)
  | _ => none

/-- The exponent of a number: a letter, perhaps a sign, at least one digit. -/
def exponent? : List Char → Step Int
  | c :: rest =>
    if c = 'e' || c = 'E' then
      let (negative, rest) :=
        match rest with
        | '-' :: tail => (true, tail)
        | '+' :: tail => (false, tail)
        | _ => (false, rest)
      let (digits, after) := spanDigits rest
      if digits.isEmpty then none
      else
        let number : Int := Text.readDigits 0 digits
        some (if negative then -number else number, after)
    else none
  | [] => none

/-- Reads a number. -/
def readNumber (text : List Char) : Step Value :=
  let (negative, unsigned) :=
    match text with
    | '-' :: rest => (true, rest)
    | _ => (false, text)
  let (whole, rest) :=
    match unsigned with
    | '0' :: tail => (['0'], tail)
    | _ => spanDigits unsigned
  if whole.isEmpty then none
  else
    let (decimals, afterFraction) := (fraction? rest).getD ([], rest)
    let exponent := exponent? afterFraction
    if decimals.isEmpty && exponent.isNone then
      if digitLimit < whole.length then none
      else
        let number : Int := Text.readDigits 0 whole
        some (.int (if negative then -number else number), rest)
    else
      let (power, after) := exponent.getD (0, afterFraction)
      let digits := Text.readDigits 0 (whole ++ decimals)
      some (.float (Decimal.nearest negative digits (power - decimals.length)), after)

mutual

/-- Reads a value that begins at the first character. The first argument bounds the
number of steps, the second one the depth that is left. -/
def readValue : Nat → Nat → List Char → Step Value
  | 0, _, _ => none
  | _, _, [] => none
  | steps + 1, depth, c :: rest =>
    if c = '"' then (readText rest).map fun (content, after) => (.text content, after)
    else if c = '[' then
      match depth with
      | 0 => none
      | depth + 1 =>
        match skipSpace rest with
        | ']' :: after => some (.list [], after)
        | start => (readItems steps depth [] start).map fun (items, after) => (.list items, after)
    else if c = '\x7b' then
      match depth with
      | 0 => none
      | depth + 1 =>
        match skipSpace rest with
        | '\x7d' :: after => some (.map [], after)
        | start =>
          (readEntries steps depth [] start).map fun (entries, after) => (.map entries, after)
    else
      match c with
      | 'n' => (afterWord? "null" (c :: rest)).map fun after => (.null, after)
      | 't' => (afterWord? "true" (c :: rest)).map fun after => (.bool true, after)
      | 'f' => (afterWord? "false" (c :: rest)).map fun after => (.bool false, after)
      | 'N' => (afterWord? "NaN" (c :: rest)).map fun after => (.float Decimal.notANumber, after)
      | 'I' => (afterWord? "Infinity" (c :: rest)).map fun after => (.float Decimal.infinity, after)
      | '-' =>
        match afterWord? "-Infinity" (c :: rest) with
        | some after => some (.float Decimal.negativeInfinity, after)
        | none => readNumber (c :: rest)
      | _ => readNumber (c :: rest)

/-- Reads the items of a list up to its closing bracket; `reversed` holds those that
were read. -/
def readItems : Nat → Nat → List Value → List Char → Step (List Value)
  | 0, _, _, _ => none
  | steps + 1, depth, reversed, text =>
    match readValue steps depth text with
    | none => none
    | some (item, rest) =>
      match skipSpace rest with
      | ']' :: after => some ((item :: reversed).reverse, after)
      | ',' :: after => readItems steps depth (item :: reversed) (skipSpace after)
      | _ => none

/-- Reads the entries of a mapping up to its closing bracket. -/
def readEntries : Nat → Nat → Entries → List Char → Step Entries
  | 0, _, _, _ => none
  | steps + 1, depth, sofar, text =>
    match text with
    | '"' :: start =>
      match readText start with
      | none => none
      | some (key, rest) =>
        match skipSpace rest with
        | ':' :: start =>
          match readValue steps depth (skipSpace start) with
          | none => none
          | some (value, rest) =>
            let entries := sofar.set key value
            match skipSpace rest with
            | '\x7d' :: after => some (entries, after)
            | ',' :: after => readEntries steps depth entries (skipSpace after)
            | _ => none
        | _ => none
    | _ => none

end

/-- Reads a text that is one value with nothing but spaces around it. -/
def read? (text : String) : Option Value :=
  let chars := skipSpace text.toList
  match readValue (2 * chars.length + 2) depthLimit chars with
  | some (value, rest) => if (skipSpace rest).isEmpty then some value else none
  | none => none

end CommandHost.Json
