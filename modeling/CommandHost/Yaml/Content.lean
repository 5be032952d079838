import CommandHost.Decimal.Nearest
import CommandHost.Text.Breaks
import CommandHost.Yaml.Node

/-!
# The value of a YAML document

A node of a supported kind has a value. The entries that a mapping takes over
from others by the merge key stand in front of its own, so its own win.
-/

namespace CommandHost.Yaml

/-- A notation that its kind does not allow. -/
def badNotation {α : Type} : Except Fault α := .error (.illegal .badNotation)

/-! ## Scalars -/

/-- A truth value, in whatever case it is written. -/
def boolValue (content : String) : Except Fault Value :=
  let word := content.toLower
  if ["yes", "true", "on"].contains word then .ok (.bool true)
  else if ["no", "false", "off"].contains word then .ok (.bool false)
  else .error (.illegal (.missingKey (.text word)))

/-- A decimal integer, which has a limited number of digits. -/
def decimalInt (digits : List Char) : Except Fault Int :=
  if digitLimit < (digits.filter Text.isDigit).length then
    .error (.illegal (.longNumber digits.length))
  else
    match Text.readInteger? digits with
    | some number => .ok number
    | none => badNotation

/-- An integer in one of the bases two, eight and sixteen. -/
def baseInt (base : Nat) (digits : List Char) : Except Fault Int :=
  match Text.readBase? base digits with
  | some number => .ok number
  | none => badNotation

/-- An integer without its sign. -/
def wholeValue : List Char → Except Fault Int
  | [] => .error (.illegal .emptyNotation)
  | ['0'] => .ok 0
  | '0' :: 'b' :: rest => baseInt 2 rest
  | '0' :: 'x' :: rest => baseInt 16 rest
  | '0' :: rest => baseInt 8 ('0' :: rest)
  | digits =>
    if digits.contains ':' then do
      let groups ← (Kind.atColons digits).mapM decimalInt
      return groups.foldl (fun sofar group => 60 * sofar + group) 0
    else decimalInt digits

/-- An integer. -/
def intValue (content : String) : Except Fault Value :=
  let body := content.toList.filter (· ≠ '_')
  (wholeValue (Kind.unsigned body)).map fun number =>
    .int (if body.head? = some '-' then -number else number)

/-- A decimal number with an optional point and an optional exponent. -/
def decimalFloat (text : List Char) : Except Fault Float :=
  let (whole, rest) := text.span Char.isDigit
  let (decimals, rest) :=
    match rest with
    | '.' :: rest => rest.span Char.isDigit
    | rest => ([], rest)
  if whole.isEmpty && decimals.isEmpty then badNotation
  else
    let digits := Text.readDigits 0 (whole ++ decimals)
    let scaled (power : Int) : Except Fault Float :=
      .ok (Decimal.nearest false digits (power - decimals.length))
    match rest with
    | [] => scaled 0
    | 'e' :: rest =>
      match Text.readInteger? rest with
      | some power => scaled power
      | none => badNotation
    | _ => badNotation

/-- A floating-point number without its sign, in small letters. -/
def realValue (body : List Char) : Except Fault Float :=
  let word := String.ofList body
  if [".inf", "inf", "infinity"].contains word then .ok Decimal.infinity
  else if [".nan", "nan"].contains word then .ok Decimal.notANumber
  else if body.contains ':' then do
    let groups ← (Kind.atColons body).mapM decimalFloat
    return (groups.reverse.foldl (fun (sum, base) group => (sum + group * base, base * 60))
      ((0.0, 1.0) : Float × Float)).1
  else decimalFloat body

/-- A floating-point number. -/
def floatValue (content : String) : Except Fault Value :=
  match (content.toList.filter (· ≠ '_')).map Char.toLower with
  | [] => .error (.illegal .emptyNotation)
  | body =>
    (realValue (Kind.unsigned body)).map fun number =>
      .float (if body.head? = some '-' then -number else number)

/-- The number of days of a month. -/
def daysIn (year month : Nat) : Nat :=
  if month = 2 then
    if (year % 4 = 0 && year % 100 ≠ 0) || year % 400 = 0 then 29 else 28
  else if [4, 6, 9, 11].contains month then 30
  else 31

/-- The runs of digits of a text. -/
def numbersIn : List Char → List Nat
  | [] => []
  | c :: rest =>
    if c.isDigit then
      match numbersIn rest, rest.head?.any Char.isDigit with
      | _, false => (c.toNat - '0'.toNat) :: numbersIn rest
      | [], true => []
      | number :: others, true =>
        let width := (rest.takeWhile Char.isDigit).length
        ((c.toNat - '0'.toNat) * Decimal.tenTo width + number) :: others
    else numbersIn rest

/-- A date, with or without a time of day. The numbers have to be in their ranges. -/
def momentValue (content : String) : Except Fault Value :=
  if !Kind.isMoment content.toList then .error (.illegal (.missingAttribute "NoneType" "groupdict"))
  else
    let zone := content.toList.drop 10 |>.dropWhile fun c => c ≠ '+' && c ≠ '-'
    let inDay :=
      match numbersIn (content.toList.takeWhile (· ≠ '.')) with
      | _ :: _ :: _ :: hour :: minute :: second :: _ => hour < 24 && minute < 60 && second < 60
      | _ => true
    let inZone :=
      match numbersIn zone with
      | hour :: minute :: _ => 60 * hour + minute < 24 * 60
      | [hour] => hour < 24
      | [] => true
    match numbersIn content.toList with
    | year :: month :: day :: _ =>
      let inYear := 1 ≤ month && month ≤ 12 && 1 ≤ day && day ≤ daysIn year month
      if 1 ≤ year && inYear && inDay && inZone then .ok (.atom (.moment content))
      else badNotation
    | _ => badNotation

/-- The value of a scalar. -/
def scalarValue (kind : Kind) (content : String) : Except Fault Value :=
  match kind with
  | .null => .ok .null
  | .bool => boolValue content
  | .int => intValue content
  | .float => floatValue content
  | .moment => momentValue content
  | .text => .ok (.text content)
  | _ => .error .malformed

/-! ## Collections -/

/-- A value as the key of a mapping. -/
def keyOf (value : Value) : Except Fault Atom :=
  match value with
  | .atom key => .ok key
  | _ => .error .malformed

/-- The kind of a node. -/
def Node.kind : Node → Kind
  | .scalar kind _ => kind
  | .sequence kind _ => kind
  | .mapping kind _ => kind

mutual

/-- The value of a node. -/
def Node.toValue : Node → Except Fault Value
  | .scalar kind content => scalarValue kind content
  | .sequence kind items =>
    match kind with
    | .sequence => (itemValues items).map .list
    | .pairs | .orderedPairs => (pairValues items).map .list
    | _ => .error .malformed
  | .mapping kind entries =>
    match kind with
    | .mapping =>
      (splitEntries entries).map fun (merged, own) => .map (Entries.ofPairs (merged ++ own))
    | .set =>
      (splitEntries entries).map fun (merged, own) =>
        .list ((Entries.ofPairs (merged ++ own)).map fun entry => .atom entry.1)
    | _ => .error .malformed

/-- The values of the items of a sequence. -/
def itemValues : List Node → Except Fault (List Value)
  | [] => .ok []
  | item :: rest => do return (← item.toValue) :: (← itemValues rest)

/-- The values of a sequence of mappings with one entry each. -/
def pairValues : List Node → Except Fault (List Value)
  | [] => .ok []
  | .mapping _ [(key, value)] :: rest => do
    return .list [← key.toValue, ← value.toValue] :: (← pairValues rest)
  | _ => .error .malformed

/-- The entries that a mapping takes over, and its own ones. -/
def splitEntries :
    List (Node × Node) → Except Fault (List (Atom × Value) × List (Atom × Value))
  | [] => .ok ([], [])
  | (key, value) :: rest => do
    if key.kind = .merge then
      let found ← value.taken
      let (merged, own) ← splitEntries rest
      return (found ++ merged, own)
    else
      let key ←
        match key with
        | .scalar .default content => pure (Atom.text content)
        | key => (← key.toValue) |> keyOf
      let value ← value.toValue
      let (merged, own) ← splitEntries rest
      return (merged, (key, value) :: own)

/-- The entries that a node gives to a mapping that merges it: those of a mapping, or
those of a sequence of mappings, the later ones in front. -/
def Node.taken : Node → Except Fault (List (Atom × Value))
  | .mapping _ entries => (splitEntries entries).map fun (merged, own) => merged ++ own
  | .sequence _ items => takenItems items
  | .scalar _ _ => .error .malformed

/-- The entries that the mappings of a sequence give. -/
def takenItems : List Node → Except Fault (List (Atom × Value))
  | [] => .ok []
  | .mapping _ entries :: rest => do
    let (merged, own) ← splitEntries entries
    return (← takenItems rest) ++ merged ++ own
  | _ => .error .malformed

end

/-! ## Texts -/

/-- The value that a YAML text holds; a text without a document holds null. -/
def read (text : String) : Except Fault Value := do
  match ← Node.ofTokens? (← tokens (Text.plainBreaks text.toList)) with
  | some node => node.toValue
  | none => return .null

end CommandHost.Yaml
