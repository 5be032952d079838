import CommandHost.Text.Digit

/-!
# The kinds of nodes

Every node has a kind: the one its tag names, or, for a plain scalar without a
tag, the one its text has the shape of. The shapes are those of YAML 1.1, so
`yes` is a truth value, `0o7` a text and `1:30` a number in base sixty.
-/

namespace CommandHost.Yaml

/-- The kinds of nodes. -/
inductive Kind where
  | null
  | bool
  | int
  | float
  | moment
  | text
  | sequence
  | mapping
  | set
  | pairs
  | orderedPairs
  /-- The key that merges other mappings into one. -/
  | merge
  /-- The key that stands for the value of a mapping. -/
  | default
  /-- A kind that is not supported. -/
  | other
  deriving DecidableEq, Repr

namespace Kind

/-- What the names of the standard tags begin with. -/
def standardTag : String := "tag:yaml.org,2002:"

/-- The standard tags. -/
def tagged : List (String × Kind) :=
  [("null", null), ("bool", bool), ("int", int), ("float", float), ("timestamp", moment),
    ("str", text), ("seq", sequence), ("map", mapping), ("set", set), ("pairs", pairs),
    ("omap", orderedPairs), ("merge", merge), ("value", default)]

/-- The kind that a tag names. -/
def ofTag (tag : String) : Kind :=
  match tagged.find? fun entry => standardTag ++ entry.1 == tag with
  | some (_, kind) => kind
  | none => other

/-! ## The shapes of plain scalars -/

/-- The words for true. -/
def trueWords : List String :=
  ["yes", "Yes", "YES", "true", "True", "TRUE", "on", "On", "ON"]

/-- The words for false. -/
def falseWords : List String :=
  ["no", "No", "NO", "false", "False", "FALSE", "off", "Off", "OFF"]

/-- The words for null. -/
def nullWords : List String := ["", "~", "null", "Null", "NULL"]

/-- Digits and the marks that group them. -/
def isGrouped (c : Char) : Bool := c.isDigit || c = '_'

/-- A text without the sign in front of it. -/
def unsigned : List Char → List Char
  | '+' :: rest => rest
  | '-' :: rest => rest
  | digits => digits

/-- A group of minutes or seconds: one digit, or two of which the first is at most
five. -/
def isSixty : List Char → Bool
  | [c] => c.isDigit
  | [c, d] => '0' ≤ c && c ≤ '5' && d.isDigit
  | _ => false

/-- Cuts a text at each colon. -/
def atColons : List Char → List (List Char)
  | [] => [[]]
  | c :: rest =>
    if c = ':' then [] :: atColons rest
    else
      match atColons rest with
      | [] => [[c]]
      | group :: others => (c :: group) :: others

/-- A number in base sixty: grouped digits and at least one further group. -/
def isSixties (leading : Char → Bool) (text : List Char) : Bool :=
  match atColons text with
  | (c :: first) :: second :: others =>
    leading c && first.all isGrouped && (second :: others).all isSixty
  | _ => false

/-- The shape of an integer, without its sign. -/
def isWhole : List Char → Bool
  | ['0'] => true
  | '0' :: 'b' :: rest => !rest.isEmpty && rest.all fun c => c = '0' || c = '1' || c = '_'
  | '0' :: 'x' :: rest =>
    !rest.isEmpty && rest.all fun c => (Text.hexValue? c).isSome || c = '_'
  | '0' :: rest => rest.all fun c => ('0' ≤ c && c ≤ '7') || c = '_'
  | c :: rest =>
    (c.isDigit && rest.all isGrouped) || isSixties (fun c => '1' ≤ c && c ≤ '9') (c :: rest)
  | [] => false

/-- The shape of an exponent, or nothing. -/
def isExponent : List Char → Bool
  | [] => true
  | c :: sign :: rest =>
    (c = 'e' || c = 'E') && (sign = '+' || sign = '-') && !rest.isEmpty && rest.all Char.isDigit
  | _ => false

/-- The shape of a number with a point, without its sign. -/
def isPointed (text : List Char) : Bool :=
  let whole := text.takeWhile isGrouped
  match text.drop whole.length with
  | '.' :: rest =>
    (whole.head?.any Char.isDigit) && isExponent (rest.dropWhile isGrouped)
  | _ => false

/-- The shape of a number in base sixty with a point, without its sign. -/
def isPointedSixties (text : List Char) : Bool :=
  let whole := text.takeWhile (· ≠ '.')
  match text.drop whole.length with
  | _ :: rest => isSixties Char.isDigit whole && rest.all isGrouped
  | [] => false

/-- The shape of a floating-point number. -/
def isReal (text : List Char) : Bool :=
  let body := unsigned text
  isPointed body || isPointedSixties body ||
    [".inf", ".Inf", ".INF"].contains (String.ofList body) ||
    [".nan", ".NaN", ".NAN"].contains (String.ofList text) ||
    (match text with
    | '.' :: c :: rest => c.isDigit && isExponent (rest.dropWhile isGrouped)
    | _ => false)

/-- Digits, as many as stand in front, and what follows them. -/
def spanDigits (text : List Char) : List Char × List Char := text.span Char.isDigit

/-- The shape of a time of day with an optional fraction, and what follows it. -/
def afterTime? (text : List Char) : Option (List Char) :=
  let (hour, rest) := spanDigits text
  match rest with
  | ':' :: a :: b :: ':' :: c :: d :: rest =>
    if (hour.length = 1 || hour.length = 2) && [a, b, c, d].all Char.isDigit then
      match rest with
      | '.' :: rest => some (rest.dropWhile Char.isDigit)
      | rest => some rest
    else none
  | _ => none

/-- The shape of a zone, or nothing. -/
def isZone (text : List Char) : Bool :=
  match text.dropWhile fun c => c = ' ' || c = '\t' with
  | [] => text.isEmpty
  | ['Z'] => true
  | sign :: rest =>
    (sign = '+' || sign = '-') &&
      (let (hour, rest) := spanDigits rest
      (hour.length = 1 || hour.length = 2) &&
        (match rest with
        | [] => true
        | [':', a, b] => a.isDigit && b.isDigit
        | _ => false))

/-- The shape of a time of day with an optional zone. -/
def isTime (text : List Char) : Bool := (afterTime? text).any isZone

/-- The shape of a date, with or without a time of day. -/
def isMoment (text : List Char) : Bool :=
  let (year, rest) := spanDigits text
  match rest with
  | '-' :: rest =>
    let (month, rest) := spanDigits rest
    match rest with
    | '-' :: rest =>
      let (day, rest) := spanDigits rest
      let small (digits : List Char) := digits.length = 1 || digits.length = 2
      year.length = 4 &&
        (match rest with
        | [] => month.length = 2 && day.length = 2
        | c :: after =>
          small month && small day &&
            (if c = 'T' || c = 't' then isTime after
            else if c = ' ' || c = '\t' then
              isTime (after.dropWhile fun c => c = ' ' || c = '\t')
            else false))
    | _ => false
  | _ => false

/-- The kind of a plain scalar without a tag. -/
def ofPlain (content : String) : Kind :=
  let text := content.toList
  if trueWords.contains content || falseWords.contains content then bool
  else if isReal text then float
  else if isWhole (unsigned text) then int
  else if content = "<<" then merge
  else if nullWords.contains content then null
  else if isMoment text then moment
  else if content = "=" then default
  else if ["!", "&", "*"].contains content then other
  else Kind.text

end Kind

end CommandHost.Yaml
