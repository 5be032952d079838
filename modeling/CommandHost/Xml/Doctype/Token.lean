import CommandHost.Xml.Lexeme

/-!
# The tokens in front of the root element

Declarations are cut into tokens: words, quoted texts, brackets and marks. The
same tokens serve for what follows the root element, where only separators,
comments and instructions are allowed.
-/

namespace CommandHost.Xml.Doctype

/-- The shapes of words: a name, a name with a prefix, or another run of name
characters. -/
inductive WordKind where
  | name
  | prefixed
  | other
  deriving DecidableEq, Repr

/-- The marks that can follow a word or a closing bracket at once. -/
inductive Repeat where
  | optional
  | any
  | some
  deriving DecidableEq, Repr

/-- The tokens. -/
inductive Token where
  | space
  | comment
  | instruction (content : Instruction)
  /-- The beginning of a declaration, with its keyword. -/
  | opening (keyword : String)
  | closing
  /-- The beginning of the root element, which is not read yet. -/
  | element
  | literal (content : List Char)
  | comma
  | bar
  | percent
  | parameter
  | openBracket
  | closeBracket
  | openParen
  | closeParen (times : Option Repeat)
  | hashed (word : String)
  | word (kind : WordKind) (content : String)
  /-- A name with a mark of repetition. -/
  | repeated (times : Repeat)
  /-- A bracket of a conditional section. -/
  | conditional
  deriving DecidableEq, Repr

/-- The mark of repetition that a character is. -/
def repeat? (c : Char) : Option Repeat :=
  if c = '?' then some .optional else if c = '*' then some .any else if c = '+' then some .some
  else none

/-- The characters that may follow a word. -/
def endsWord (c : Char) : Bool :=
  isSpace c || c = '>' || c = ')' || c = ',' || c = '|' || c = '[' || c = '%'

/-- The rest of a word, whose characters so far are given, the last one first. -/
def readWord : Nat → WordKind → List Char → Step Token
  | 0, kind, sofar, text => .ok (.word kind (String.ofList sofar.reverse), text)
  | _, kind, sofar, [] => .ok (.word kind (String.ofList sofar.reverse), [])
  | fuel + 1, kind, sofar, c :: rest =>
    if isNameChar c then readWord fuel kind (c :: sofar) rest
    else if endsWord c then .ok (.word kind (String.ofList sofar.reverse), c :: rest)
    else if c = ':' then
      match kind with
      | .name =>
        match rest with
        | [] => .error .unclosedToken
        | d :: behind =>
          if isNameChar d then readWord fuel .prefixed (d :: c :: sofar) behind
          else if 0x80 ≤ d.toNat then .error .invalidToken
          else readWord fuel .other (c :: sofar) rest
      | _ => readWord fuel .other (c :: sofar) rest
    else
      match repeat? c with
      | some times => if kind = .other then .error .invalidToken else .ok (.repeated times, rest)
      | none => .error .invalidToken

/-- The characters that may follow a quoted text. -/
def endsLiteral (c : Char) : Bool := isSpace c || c = '>' || c = '%' || c = '['

/-- The rest of a quoted text. -/
def readLiteral (quote : Char) (sofar : List Char) : Step Token
  | [] => .error .unclosedToken
  | c :: rest =>
    if c = quote then
      if rest.head?.all endsLiteral then .ok (.literal sofar.reverse, rest)
      else .error .invalidToken
    else if isAllowed c then readLiteral quote (c :: sofar) rest
    else .error .invalidToken

/-- A declaration, a comment or a conditional section, read behind its exclamation
mark. -/
def readOpening : Step Token := fun text =>
  match text with
  | '-' :: rest => (readComment rest).map fun (_, rest) => (.comment, rest)
  | '[' :: rest => .ok (.conditional, rest)
  | c :: _ =>
    if !(c.isAlpha || c = '_') then .error .invalidToken
    else
      let letter (c : Char) : Bool := c.isAlpha || c = '_'
      let keyword := text.takeWhile letter
      match text.dropWhile letter with
      | [] => .error .unclosedToken
      | ['%'] => .error .unclosedToken
      | d :: rest =>
        if isSpace d || (d = '%' && !(rest.head?.any fun c => isSpace c || c = '%')) then
          .ok (.opening (String.ofList keyword), d :: rest)
        else .error .invalidToken
  | [] => .error .unclosedToken

/-- A reference to a parameter, or a lone mark of one, read behind the mark. -/
def readPercent : Step Token := fun text =>
  match text with
  | c :: _ =>
    if isSpace c || c = '%' then .ok (.percent, text)
    else do
      let (_, rest) ← readName text
      match rest with
      | ';' :: rest => return (.parameter, rest)
      | _ => throw (unexpected rest)
  | [] => .error .unclosedToken

/-- A word behind a hash. -/
def readHashed : Step Token := fun text => do
  let (name, rest) ← readName text
  let ends (c : Char) : Bool := isSpace c || c = ')' || c = '>' || c = '%' || c = '|'
  if rest.head?.all ends then return (.hashed (String.ofList name), rest) else throw .invalidToken

/-- The next token. The text is not empty. -/
def readToken : Step Token := fun text =>
  match text with
  | [] => .error .noElement
  | c :: rest =>
    if isSpace c then .ok (.space, skipSpaces rest)
    else if c = '"' || c = '\'' then readLiteral c [] rest
    else if c = '<' then
      match rest with
      | [] => .error .unclosedToken
      | '!' :: rest => readOpening rest
      | '?' :: rest =>
        (Instruction.read rest).map fun (content, rest) => (.instruction content, rest)
      | d :: _ =>
        if 0x80 ≤ d.toNat || isNameStart d then .ok (.element, text) else .error .invalidToken
    else if c = '%' then readPercent rest
    else if c = ',' then .ok (.comma, rest)
    else if c = '[' then .ok (.openBracket, rest)
    else if c = ']' then
      match rest with
      | [']'] => .error .unclosedToken
      | ']' :: '>' :: rest => .ok (.conditional, rest)
      | _ => .ok (.closeBracket, rest)
    else if c = '(' then .ok (.openParen, rest)
    else if c = ')' then
      match rest with
      | [] => .ok (.closeParen none, [])
      | d :: behind =>
        match repeat? d with
        | some times => .ok (.closeParen (some times), behind)
        | none =>
          if isSpace d || d = '>' || d = ',' || d = '|' || d = ')' then
            .ok (.closeParen none, rest)
          else .error .invalidToken
    else if c = '|' then .ok (.bar, rest)
    else if c = '>' then .ok (.closing, rest)
    else if c = '#' then readHashed rest
    else if isNameStart c then readWord text.length .name [c] rest
    else if isNameChar c || c = ':' then readWord text.length .other [c] rest
    else .error .invalidToken

end CommandHost.Xml.Doctype
