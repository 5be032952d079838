import CommandHost.Text.Digit
import CommandHost.Xml.Chars
import CommandHost.Xml.Fault

/-!
# The pieces of markup

Readers for names, references, comments, instructions and tags. Each begins
behind the characters that announce its piece and gives the piece and what
follows it. A text that ends too early and a character that does not fit are
different faults.
-/

namespace CommandHost.Xml

/-- A reader gives a piece and what follows it. -/
abbrev Step (α : Type) := List Char → Except Fault (α × List Char)

/-- The text without the separators in front of it. -/
def skipSpaces (text : List Char) : List Char := text.dropWhile isSpace

/-- The fault of a text that does not go on as it has to. -/
def unexpected : List Char → Fault
  | [] => .unclosedToken
  | _ => .invalidToken

/-- A name without a prefix. -/
def readName : Step (List Char)
  | [] => .error .unclosedToken
  | c :: rest =>
    if isNameStart c then .ok (c :: rest.takeWhile isNameChar, rest.dropWhile isNameChar)
    else .error .invalidToken

/-- A name that may have a prefix. -/
def readQualified : Step (List Char) := fun text => do
  let (first, rest) ← readName text
  match rest with
  | ':' :: rest =>
    let (second, rest) ← readName rest
    return (first ++ ':' :: second, rest)
  | _ => return (first, rest)

/-! ## References -/

/-- A reference to a character by its number, or to an entity by its name. -/
inductive Reference where
  | character (number : Nat)
  | entity (name : String)
  deriving DecidableEq, Repr

/-- A number in a base, closed by a semicolon. -/
def readNumber (base : Nat) : Step Reference := fun text =>
  let belongs (c : Char) : Bool := (Text.hexValue? c).any (· < base)
  let digits := text.takeWhile belongs
  match digits, text.dropWhile belongs with
  | _ :: _, ';' :: rest => .ok (.character ((Text.readBase? base digits).getD 0), rest)
  | _, rest => .error (unexpected rest)

/-- A reference, read behind its ampersand. -/
def readReference : Step Reference := fun text =>
  match text with
  | '#' :: 'x' :: rest => readNumber 16 rest
  | '#' :: rest => readNumber 10 rest
  | _ => do
    let (name, rest) ← readName text
    match rest with
    | ';' :: rest => return (.entity (String.ofList name), rest)
    | _ => throw (unexpected rest)

/-- The character of a number, if markup may refer to it. -/
def characterOf (number : Nat) : Except Fault Char :=
  if number.isValidChar && isAllowed (Char.ofNat number) then .ok (Char.ofNat number)
  else .error .badCharacterNumber

/-- The entities that need no declaration. -/
def predefined? (name : String) : Option Char :=
  [("lt", '<'), ("gt", '>'), ("amp", '&'), ("apos", '\''), ("quot", '"')].lookup name

/-! ## Comments and instructions -/

/-- The rest of a comment. -/
def readCommentFrom (sofar : List Char) : Step (List Char)
  | [] => .error .unclosedToken
  | ['-'] => .error .unclosedToken
  | ['-', '-'] => .error .unclosedToken
  | '-' :: '-' :: c :: rest => if c = '>' then .ok (sofar.reverse, rest) else .error .invalidToken
  | c :: rest => if isAllowed c then readCommentFrom (c :: sofar) rest else .error .invalidToken

/-- A comment, read behind its first hyphen. -/
def readComment : Step (List Char)
  | '-' :: rest => readCommentFrom [] rest
  | text => .error (unexpected text)

/-- A processing instruction: its target, and what stands behind that. -/
structure Instruction where
  target : String
  content : List Char
  deriving DecidableEq, Repr

namespace Instruction

/-- Whether an instruction is a declaration of the document. -/
def isDeclaration (instruction : Instruction) : Bool := instruction.target = "xml"

/-- Whether a target is reserved, namely another spelling of the target of
declarations. -/
def isReserved (target : List Char) : Bool :=
  target.map Char.toLower = ['x', 'm', 'l'] && target ≠ ['x', 'm', 'l']

/-- The rest of an instruction. -/
def readFrom (sofar : List Char) : Step (List Char)
  | [] => .error .unclosedToken
  | ['?'] => .error .unclosedToken
  | '?' :: '>' :: rest => .ok (sofar.reverse, rest)
  | c :: rest => if isAllowed c then readFrom (c :: sofar) rest else .error .invalidToken

/-- An instruction, read behind its question mark. -/
def read : Step Instruction := fun text => do
  let (target, rest) ← readName text
  match rest with
  | [] => throw .unclosedToken
  | c :: behind =>
    if (isSpace c || c = '?') && isReserved target then throw .invalidToken
    else if isSpace c then
      let (content, rest) ← readFrom [c] behind
      return (⟨String.ofList target, content⟩, rest)
    else if c = '?' then
      match behind with
      | '>' :: rest => return (⟨String.ofList target, []⟩, rest)
      | _ => throw (unexpected behind)
    else throw .invalidToken

end Instruction

/-! ## Tags -/

/-- A start tag as it is written. -/
structure Tag where
  name : String
  attributes : List (String × List Char)
  /-- The tag is its own end. -/
  closed : Bool
  deriving DecidableEq, Repr

namespace Tag

/-- The value of an attribute up to its closing quote. References are only checked
for their form. -/
def readValue (quote : Char) : Nat → List Char → Step (List Char)
  | 0, _, _ => .error .unclosedToken
  | _, _, [] => .error .unclosedToken
  | fuel + 1, sofar, c :: rest =>
    if c = quote then .ok (sofar.reverse, rest)
    else if c = '<' || !isAllowed c then .error .invalidToken
    else if c = '&' then
      match readReference rest with
      | .error fault => .error fault
      | .ok (_, after) =>
        let reference := rest.take (rest.length - after.length)
        readValue quote fuel (reference.reverse ++ '&' :: sofar) after
    else readValue quote fuel (c :: sofar) rest

/-- An attribute with its value. -/
def readAttribute : Step (String × List Char) := fun text => do
  let (name, rest) ← readQualified text
  match skipSpaces rest with
  | '=' :: rest =>
    match skipSpaces rest with
    | quote :: rest =>
      if quote = '"' || quote = '\'' then
        let (value, rest) ← readValue quote (rest.length + 1) [] rest
        return ((String.ofList name, value), rest)
      else throw .invalidToken
    | [] => throw .unclosedToken
  | rest => throw (unexpected rest)

/-- The attributes of a tag and its end. -/
def readAttributes : Nat → List (String × List Char) → Step (List (String × List Char) × Bool)
  | 0, _, _ => .error .unclosedToken
  | fuel + 1, sofar, text =>
    match text with
    | '>' :: rest => .ok ((sofar.reverse, false), rest)
    | ['/'] => .error .unclosedToken
    | '/' :: '>' :: rest => .ok ((sofar.reverse, true), rest)
    | c :: _ =>
      if isSpace c then
        match skipSpaces text with
        | [] => .error .unclosedToken
        | d :: rest =>
          if d = '>' || d = '/' then readAttributes fuel sofar (d :: rest)
          else
            match readAttribute (d :: rest) with
            | .error fault => .error fault
            | .ok (found, rest) => readAttributes fuel (found :: sofar) rest
      else .error .invalidToken
    | [] => .error .unclosedToken

/-- A start tag, read behind its bracket. -/
def read : Step Tag := fun text => do
  let (name, rest) ← readQualified text
  let ((attributes, closed), rest) ← readAttributes (rest.length + 1) [] rest
  return (⟨String.ofList name, attributes, closed⟩, rest)

/-- The name of an end tag, read behind its slash. -/
def readEnd : Step String := fun text => do
  let (first, rest) ← readName text
  let belongs (c : Char) : Bool := isNameChar c || c = ':'
  let name := first ++ rest.takeWhile belongs
  match skipSpaces (rest.dropWhile belongs) with
  | '>' :: rest => return (String.ofList name, rest)
  | rest => throw (unexpected rest)

end Tag

/-! ## Character data -/

/-- What opens a section of unmarked data behind its bracket. -/
def sectionWord : List Char := "CDATA[".toList

/-- The opening of a section of unmarked data, read behind its bracket. -/
def readSectionStart : Step Unit := fun text =>
  let bytes := (String.ofList (text.take sectionWord.length)).utf8ByteSize
  if bytes < sectionWord.length then .error .unclosedToken
  else if sectionWord.isPrefixOf text then .ok ((), text.drop sectionWord.length)
  else .error .invalidToken

/-- The data of a section up to its end. -/
def readSection (sofar : List Char) : Step (List Char)
  | [] => .error .unclosedSection
  | ']' :: ']' :: '>' :: rest => .ok (sofar.reverse, rest)
  | c :: rest => if isAllowed c then readSection (c :: sofar) rest else .error .invalidToken

/-- The longest run of data without markup. The mark that ends a section of unmarked
data may not stand in it. -/
def spanData : List Char → List Char × List Char
  | [] => ([], [])
  | c :: rest =>
    let ends :=
      c = '<' || c = '&' || !isAllowed c || [']', ']', '>'].isPrefixOf (c :: rest)
    if ends then ([], c :: rest)
    else
      let (run, after) := spanData rest
      (c :: run, after)

end CommandHost.Xml
