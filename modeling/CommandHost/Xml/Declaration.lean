import CommandHost.Xml.Lexeme

/-!
# The declaration of a document

A declaration names a version, possibly an encoding, and possibly whether the
document stands alone, in this order. The encoding plays no part: the text is
already decoded.
-/

namespace CommandHost.Xml

/-- The characters of the values in a declaration. -/
def isDeclarationChar (c : Char) : Bool := c.isAlphanum || c = '.' || c = '-' || c = '_'

/-- One name with its value, if anything is left, and what follows it. -/
def readPseudo (text : List Char) : Option (Option (List Char × List Char) × List Char) :=
  if text.isEmpty then some (none, [])
  else if !text.head?.any isSpace then none
  else
    let inner := skipSpaces text
    if inner.isEmpty then some (none, [])
    else
      let name := inner.takeWhile fun c => c ≠ '=' && !isSpace c
      match skipSpaces (inner.drop name.length) with
      | '=' :: rest =>
        if name.isEmpty || name.any fun c => 0x80 ≤ c.toNat then none
        else
          match skipSpaces rest with
          | quote :: rest =>
            let value := rest.takeWhile isDeclarationChar
            if (quote = '"' || quote = '\'') && (rest.drop value.length).head? = some quote then
              some (some (name, value), rest.drop (value.length + 1))
            else none
          | [] => none
      | _ => none

/-- Whether a document stands alone, from the value that says so, with nothing but
separators behind it. -/
def readStandalone (name value rest : List Char) : Option Bool :=
  if name ≠ "standalone".toList || !(skipSpaces rest).isEmpty then none
  else if value = "yes".toList then some true
  else if value = "no".toList then some false
  else none

/-- Whether a document stands alone, from the content of its declaration. -/
def readDeclaration (content : List Char) : Except Fault Bool :=
  let answer : Option Bool := do
    let (version, rest) ← readPseudo content
    let (name, _) ← version
    if name ≠ "version".toList then none
    let (second, rest) ← readPseudo rest
    match second with
    | none => some false
    | some (name, value) =>
      if name = "encoding".toList then
        if !value.head?.any Char.isAlpha then none
        let (third, rest) ← readPseudo rest
        match third with
        | none => some false
        | some (name, value) => readStandalone name value rest
      else readStandalone name value rest
  match answer with
  | some standalone => .ok standalone
  | none => .error .badDeclaration

end CommandHost.Xml
