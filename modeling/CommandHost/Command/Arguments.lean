import CommandHost.Command.Basic
import CommandHost.Json.Reader
import CommandHost.Text.Blank
import CommandHost.Text.Case

/-!
# Defensive reading of parameters

Each accessor looks for the first of one or more keys that holds a value other
than null and brings it to one kind; where there is none, the caller's default
takes its place. A key is looked up as it is, and then by its text, because
parameters given by position are kept under texts. A key or a value that cannot
be written out makes an accessor fail that needs its text.
-/

namespace CommandHost

/-- What a caller can pass for parameters. -/
inductive Source where
  | nothing
  | mapping (params : Entries)
  | command (content : Command)
  /-- Something that keeps a value as its parameters. -/
  | holder (params : Value)
  /-- Something that keeps no parameters. -/
  | bare

/-- The parameters that a source has. -/
def Source.params? : Source → Option Entries
  | .mapping params => some params
  | .command content => some content.params
  | .holder (.map params) => some params
  | .holder _ => none
  | .nothing => none
  | .bare => none

/-- The parameters to search in a source: the empty ones if it has none. -/
def Source.params (source : Source) : Entries := source.params?.getD []

namespace Arguments

/-- A key or several keys: a text or a value without items is one key, the items of
anything else are keys. -/
def keysOf : Value → List Value
  | .text content => [.text content]
  | key => key.items?.getD [key]

/-- The value kept under a key as it is, null included. -/
def direct? (params : Entries) : Value → Option Value
  | .atom key => params.find? key
  | _ => none

/-- The value kept under a key, or else under the text of the key; null if there is
none. -/
def lookup (params : Entries) (key : Value) : Except IllegalUse Value :=
  match direct? params key with
  | some value => .ok value
  | none => key.toText.map params.getOrNull

/-- The first value other than null that one of the keys holds. -/
def firstOf (params : Entries) : List Value → Except IllegalUse (Option Value)
  | [] => .ok none
  | key :: rest => do
    let value ← lookup params key
    if value.isNull then firstOf params rest else return some value

/-- The first value other than null that one of the keys holds in the parameters of a
source. No key is looked up where there are no parameters. -/
def find? (source : Source) (keys : List Value) : Except IllegalUse (Option Value) :=
  if source.params.isEmpty then .ok none else firstOf source.params keys

/-- A parameter as it is. -/
def getParam (source : Source) (key default : Value) : Except IllegalUse Value := do
  return (← find? source (keysOf key)).getD default

/-- Whether one of some keys holds a value other than null. The keys behind it are not
looked up. -/
def anyHeld (params : Entries) : List Value → Except IllegalUse Bool
  | [] => .ok false
  | key :: rest => do
    let value ← lookup params key
    if value.isNull then anyHeld params rest else return true

/-- Whether one of the keys holds a value other than null in the parameters of a source. -/
def hasParam (source : Source) (key : Value) : Except IllegalUse Bool :=
  if source.params.isEmpty then .ok false else anyHeld source.params (keysOf key)

/-- A parameter as a text. -/
def getText (source : Source) (keys : List Value) (default : Value) :
    Except IllegalUse Value := do
  match ← find? source keys with
  | some value => return .text (← value.toText)
  | none => return default

/-- The words that are read as true, in small letters. -/
def trueWords : List String := ["1", "true", "yes", "on"]

/-- The words that are read as false, in small letters. -/
def falseWords : List String := ["0", "false", "no", "off"]

/-- A value as a truth value: the words for true and false are known in any case and
with blanks around them; any other value counts as `Value.truthy` says. -/
def toBool (value : Value) : Bool :=
  match value with
  | .text content =>
    let word := String.ofList (Text.smalls (Text.strip content.toList))
    if trueWords.contains word then true
    else if falseWords.contains word then false
    else value.truthy
  | _ => value.truthy

/-- A parameter as a truth value. -/
def getBool (source : Source) (key default : Value) : Except IllegalUse Bool := do
  return toBool (← getParam source key default)

/-- The sign and the digits with which a text begins, after blanks. -/
def leadingDigits? (text : List Char) : Option (Bool × List Char) :=
  let text := text.dropWhile Text.isBlank
  let (negative, unsigned) :=
    match text with
    | '-' :: rest => (true, rest)
    | '+' :: rest => (false, rest)
    | _ => (false, text)
  let digits := unsigned.takeWhile Text.isDigit
  if digits.isEmpty then none else some (negative, digits)

/-- The integer with which the text of a parameter begins, or the default. A run of
digits over the limit is refused. -/
def getInt (source : Source) (key default : Value) : Except IllegalUse Value := do
  let value ← getParam source key default
  let text ← value.toText
  match leadingDigits? text.toList with
  | none => return default
  | some (negative, digits) =>
    if digitLimit < digits.length then throw (.longNumber digits.length)
    let number : Int := Text.readDigits 0 digits
    return .int (if negative then -number else number)

/-- A value as a list or mapping, or as what its text says in JSON. -/
def toJson? : Value → Option Value
  | .list items => some (.list items)
  | .map entries => some (.map entries)
  | .text content => Json.read? content
  | _ => none

/-- A parameter as a list or mapping, or as what its text says in JSON; the default
where it is neither. -/
def getJson (source : Source) (key default : Value) : Except IllegalUse Value := do
  return (toJson? (← getParam source key default)).getD default

/-! ## Being there and being found -/

theorem anyHeld_eq_firstOf (params : Entries) (keys : List Value) :
    anyHeld params keys = (firstOf params keys).map Option.isSome := by
  induction keys with
  | nil => rfl
  | cons key rest inductionHypothesis =>
      rw [anyHeld, firstOf]
      cases lookup params key with
      | error cause => rfl
      | ok value =>
          change (if value.isNull then anyHeld params rest else .ok true) =
            (if value.isNull then firstOf params rest else .ok (some value)).map Option.isSome
          rw [inductionHypothesis]
          split <;> rfl

/-- A parameter is there exactly if the search for it finds something. -/
theorem hasParam_eq_find? (source : Source) (key : Value) :
    hasParam source key = (find? source (keysOf key)).map Option.isSome := by
  rw [hasParam, find?]
  split
  · rfl
  · exact anyHeld_eq_firstOf source.params (keysOf key)

end Arguments

end CommandHost
