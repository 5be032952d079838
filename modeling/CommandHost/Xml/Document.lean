import CommandHost.Text.Breaks
import CommandHost.Xml.Doctype.Place
import CommandHost.Xml.Encoding
import CommandHost.Xml.Node

/-!
# Documents of markup

A document is what may stand in front of the root element, the root element, and
what may stand behind it.
-/

namespace CommandHost.Xml

/-- Reads what stands in front of the root element, and gives what is declared there
and the text from the root element on. -/
def readFront : Nat → Doctype.Progress → List Char → Except Fault (Declared × List Char)
  | 0, _, _ => .error .noElement
  | fuel + 1, progress, text =>
    match Doctype.readToken text with
    | .error fault => .error fault
    | .ok (.element, text) =>
      match progress.place with
      | .start | .front | .behind => .ok (progress.declared, text)
      | _ => .error .misplacedToken
    | .ok (token, rest) =>
      match Doctype.Place.step progress token with
      | .error fault => .error fault
      | .ok progress => readFront fuel progress rest

/-- Checks that nothing but separators, comments and instructions is left. -/
def readBack : Nat → List Char → Except Fault Unit
  | 0, _ => .ok ()
  | _, [] => .ok ()
  | fuel + 1, text =>
    match Doctype.readToken text with
    | .error fault => .error fault
    | .ok (.space, rest) => readBack fuel rest
    | .ok (.comment, rest) => readBack fuel rest
    | .ok (.instruction content, rest) =>
      if content.isDeclaration then .error .junkAfterElement else readBack fuel rest
    | .ok _ => .error .junkAfterElement

/-- The mark that may stand at the beginning of a document. -/
def orderMark : Char := '\uFEFF'

/-- Reads the characters of a document and gives its root element. -/
def parseChars (text : List Char) : Except Fault Node := do
  let (declared, text) ← readFront (text.length + 1) ⟨.start, .nothing⟩ text
  let fuel := text.length + declared.size + 2
  let (progress, rest) ← readContent declared 0 fuel [] ⟨[], none, 0⟩ text
  readBack (rest.length + 1) rest
  match progress.root with
  | some root => return root
  | none => throw .noElement

/-- Reads a document with a single byte at its end and gives the cause for which it is
refused. The single byte counts as the beginning of a token. -/
def raggedFault (text : List Char) : Fault :=
  match parseChars text with
  | .ok _ | .error .noElement => .unclosedToken
  | .error fault => fault

/-- Reads a document and gives its root element. -/
def parse (document : String) : Except Fault Node :=
  match paired? document with
  | some paired =>
    let text := Text.plainBreaks paired.text
    if paired.ragged then .error (raggedFault text) else parseChars text
  | none =>
    let text := Text.plainBreaks document.toList
    parseChars (if text.head? = some orderMark then text.tail else text)

end CommandHost.Xml
