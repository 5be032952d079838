import CommandHost.Yaml.Scalar

/-!
# Cutting a YAML text into tokens

`Scan` is the state of the cutting: the place that was reached, the tokens so
far, the indentations of the open blocks, the depth of brackets, and where a key
may have begun. A key without a mark of its own is known as one only when its
colon is met; its token is then put in front of what was read since.
-/

namespace CommandHost.Yaml

/-- A place where a key may have begun. -/
structure KeyPlace where
  /-- How many tokens stood in front of it. -/
  position : Nat
  /-- Nothing but a key can stand there. -/
  required : Bool
  index : Nat
  line : Nat
  column : Nat

/-- The state of the cutting. -/
structure Scan where
  cursor : Cursor
  /-- The tokens so far, the last one first. -/
  tokens : List Token
  count : Nat
  /-- How many brackets are open. -/
  depth : Nat
  /-- The indentation of the innermost block, if a block is open. -/
  indent : Option Nat
  outer : List (Option Nat)
  /-- Whether a key may begin at the next token. -/
  keyAllowed : Bool
  /-- The places of possible keys by the depth of brackets. -/
  places : List (Nat × KeyPlace)

namespace Scan

/-- The state at the beginning of a text. -/
def start (text : List Char) : Scan :=
  { cursor := .start text, tokens := [], count := 0, depth := 0, indent := none, outer := [],
    keyAllowed := true, places := [] }

/-- Adds a token at the end. -/
def push (scan : Scan) (token : Token) : Scan :=
  { scan with tokens := token :: scan.tokens, count := scan.count + 1 }

/-- Puts a token behind the first `position` ones. -/
def insert (scan : Scan) (position : Nat) (token : Token) : Scan :=
  let (recent, older) := scan.tokens.splitAt (scan.count - position)
  { scan with tokens := recent ++ token :: older, count := scan.count + 1 }

/-- Adds a token for a number of characters. -/
def pushOver (scan : Scan) (token : Token) (length : Nat) : Scan :=
  { scan.push token with cursor := scan.cursor.skip length }

/-- Whether a block is indented by less than a column. -/
def below (indent : Option Nat) (column : Nat) : Bool :=
  match indent with
  | none => true
  | some indent => indent < column

/-- Ends the blocks that are indented by more than a column; without a column, all
blocks. The list of indentations is the fuel. -/
def endBlocks (scan : Scan) (column : Option Nat) : List (Option Nat) → Scan
  | [] => scan
  | outer :: others =>
    match scan.indent with
    | none => scan
    | some indent =>
      if column.all (· < indent) then
        endBlocks { scan.push .blockEnd with indent := outer, outer := others } column others
      else scan

/-- Ends the blocks that end at a column, unless brackets are open. -/
def unwind (scan : Scan) (column : Option Nat) : Scan :=
  if scan.depth ≠ 0 then scan else scan.endBlocks column scan.outer

/-- Opens a block at a column that is indented by more than the innermost one. -/
def openBlock (scan : Scan) (column position : Nat) (token : Token) : Scan :=
  if below scan.indent column then
    { scan.insert position token with indent := some column, outer := scan.indent :: scan.outer }
  else scan

/-- The longest distance in characters between a key and its colon. -/
def keyReach : Nat := 1024

/-- Forgets the places whose colon can no longer come. -/
def forgetStale (scan : Scan) : Except Fault Scan :=
  let stale (place : KeyPlace) : Bool :=
    place.line ≠ scan.cursor.line || scan.cursor.index - place.index > keyReach
  if scan.places.any fun (_, place) => stale place && place.required then .error .malformed
  else .ok { scan with places := scan.places.filter fun (_, place) => !stale place }

/-- Forgets the place at the present depth. -/
def forgetPlace (scan : Scan) : Except Fault Scan :=
  match scan.places.lookup scan.depth with
  | none => .ok scan
  | some place =>
    if place.required then .error .malformed
    else .ok { scan with places := scan.places.filter (·.1 ≠ scan.depth) }

/-- Keeps the present place as one where a key may begin. -/
def keepPlace (scan : Scan) : Except Fault Scan := do
  if !scan.keyAllowed then return scan
  let scan ← scan.forgetPlace
  let place : KeyPlace := {
    position := scan.count
    required := scan.depth = 0 && scan.indent = some scan.cursor.column
    index := scan.cursor.index
    line := scan.cursor.line
    column := scan.cursor.column }
  return { scan with places := (scan.depth, place) :: scan.places }

/-! ## The single tokens -/

/-- Passes over spaces, comments and line ends. -/
def skipGaps : Nat → Scan → Scan
  | 0, scan => scan
  | fuel + 1, scan =>
    let after := scan.cursor.skipSpaces.skipComment
    let (content, after') := after.readBreak
    if content.isEmpty then { scan with cursor := after }
    else
      skipGaps fuel
        { scan with cursor := after', keyAllowed := scan.keyAllowed || scan.depth = 0 }

/-- The end of the text. -/
def atEnd (scan : Scan) : Except Fault Scan := do
  let scan ← (scan.unwind none).forgetPlace
  return { scan.push .streamEnd with keyAllowed := false, places := [] }

/-- A directive. -/
def atDirective (scan : Scan) : Except Fault Scan := do
  let scan ← (scan.unwind none).forgetPlace
  let (directive, cursor) ← readDirective scan.cursor
  return { scan.push (.directive directive) with keyAllowed := false, cursor }

/-- A document mark. -/
def atDocumentMark (scan : Scan) (token : Token) : Except Fault Scan := do
  let scan ← (scan.unwind none).forgetPlace
  return { scan.pushOver token 3 with keyAllowed := false }

/-- An opening bracket. -/
def atOpening (scan : Scan) (token : Token) : Except Fault Scan := do
  let scan ← scan.keepPlace
  return { scan.pushOver token 1 with depth := scan.depth + 1, keyAllowed := true }

/-- A closing bracket. -/
def atClosing (scan : Scan) (token : Token) : Except Fault Scan := do
  let scan ← scan.forgetPlace
  return { scan.pushOver token 1 with depth := scan.depth - 1, keyAllowed := false }

/-- A comma between brackets. -/
def atFlowEntry (scan : Scan) : Except Fault Scan := do
  let scan ← scan.forgetPlace
  return { scan.pushOver .flowEntry 1 with keyAllowed := true }

/-- The mark of an item of a sequence. -/
def atBlockEntry (scan : Scan) : Except Fault Scan := do
  if scan.depth = 0 && !scan.keyAllowed then throw .malformed
  let scan :=
    if scan.depth = 0 then scan.openBlock scan.cursor.column scan.count .blockSequenceStart
    else scan
  let scan ← scan.forgetPlace
  return { scan.pushOver .blockEntry 1 with keyAllowed := true }

/-- The mark of a key. -/
def atKey (scan : Scan) : Except Fault Scan := do
  if scan.depth = 0 && !scan.keyAllowed then throw .malformed
  let scan :=
    if scan.depth = 0 then scan.openBlock scan.cursor.column scan.count .blockMappingStart
    else scan
  let scan ← scan.forgetPlace
  return { scan.pushOver .key 1 with keyAllowed := scan.depth = 0 }

/-- The mark of a value. -/
def atValue (scan : Scan) : Except Fault Scan := do
  match scan.places.lookup scan.depth with
  | some place =>
    let scan := { scan with places := scan.places.filter (·.1 ≠ scan.depth) }
    let scan := scan.insert place.position .key
    let scan :=
      if scan.depth = 0 then scan.openBlock place.column place.position .blockMappingStart
      else scan
    return { scan.pushOver .value 1 with keyAllowed := false }
  | none =>
    if scan.depth = 0 && !scan.keyAllowed then throw .malformed
    let scan :=
      if scan.depth = 0 then scan.openBlock scan.cursor.column scan.count .blockMappingStart
      else scan
    let scan ← scan.forgetPlace
    return { scan.pushOver .value 1 with keyAllowed := scan.depth = 0 }

/-- An anchor or an alias. -/
def atName (scan : Scan) (token : String → Token) : Except Fault Scan := do
  let scan ← scan.keepPlace
  let (name, cursor) ← readAnchor scan.cursor
  return { scan.push (token name) with keyAllowed := false, cursor }

/-- A tag. -/
def atTag (scan : Scan) : Except Fault Scan := do
  let scan ← scan.keepPlace
  let (tag, cursor) ← readTag scan.cursor
  return { scan.push (.tag tag) with keyAllowed := false, cursor }

/-- A block scalar. -/
def atBlockScalar (scan : Scan) : Except Fault Scan := do
  let scan ← scan.forgetPlace
  let (content, cursor) ← readBlock scan.indent scan.cursor
  return { scan.push (.scalar content false) with keyAllowed := true, cursor }

/-- A quoted scalar. -/
def atQuoted (scan : Scan) : Except Fault Scan := do
  let scan ← scan.keepPlace
  let (content, cursor) ← readQuoted scan.cursor
  return { scan.push (.scalar content false) with keyAllowed := false, cursor }

/-- A plain scalar. -/
def atPlain (scan : Scan) : Except Fault Scan := do
  let scan ← scan.keepPlace
  let least := (scan.indent.map (· + 1)).getD 0
  let (content, ended, cursor) := readPlain (scan.depth ≠ 0) least scan.cursor
  return { scan.push (.scalar content true) with keyAllowed := ended, cursor }

/-- The characters that cannot begin a plain scalar on their own. -/
def isIndicator (c : Char) : Bool := "-?:,[]\x7b\x7d#&*!|>'\"%@`".toList.contains c

/-- Whether a plain scalar begins at a place. -/
def beginsPlain (scan : Scan) : Bool :=
  let c := scan.cursor.here
  (!isGapOrEnd c && !isIndicator c) ||
    (!isGapOrEnd (scan.cursor.peek 1) && (c = '-' || (scan.depth = 0 && (c = '?' || c = ':'))))

/-- The next token, at a place where one begins. -/
def step (scan : Scan) : Except Fault Scan :=
  let cursor := scan.cursor
  let c := cursor.here
  let gapBehind := isGapOrEnd (cursor.peek 1)
  let inFlow := scan.depth ≠ 0
  if c = ending then scan.atEnd
  else if c = '%' && cursor.column = 0 then scan.atDirective
  else if c = '-' && cursor.column = 0 && cursor.atDocumentMark then
    scan.atDocumentMark .documentStart
  else if c = '.' && cursor.column = 0 && cursor.atDocumentMark then
    scan.atDocumentMark .documentEnd
  else if c = '[' then scan.atOpening .flowSequenceStart
  else if c = '\x7b' then scan.atOpening .flowMappingStart
  else if c = ']' then scan.atClosing .flowSequenceEnd
  else if c = '\x7d' then scan.atClosing .flowMappingEnd
  else if c = ',' then scan.atFlowEntry
  else if c = '-' && gapBehind then scan.atBlockEntry
  else if c = '?' && (inFlow || gapBehind) then scan.atKey
  else if c = ':' && (inFlow || gapBehind) then scan.atValue
  else if c = '*' then scan.atName .alias
  else if c = '&' then scan.atName .anchor
  else if c = '!' then scan.atTag
  else if (c = '|' || c = '>') && !inFlow then scan.atBlockScalar
  else if c = '\'' || c = '"' then scan.atQuoted
  else if scan.beginsPlain then scan.atPlain
  else .error .malformed

/-- Cuts the rest of a text. Every step reads a character or reaches the end, so the
length of the text bounds their number. -/
def run : Nat → Scan → Except Fault (List Token)
  | 0, _ => .error .malformed
  | fuel + 1, scan => do
    let scan ← (skipGaps (scan.cursor.rest.length + 1) scan).forgetStale
    let scan ← (scan.unwind (some scan.cursor.column)).step
    if scan.tokens.head? = some .streamEnd then return scan.tokens.reverse else run fuel scan

end Scan

/-- The tokens of a text. -/
def tokens (text : List Char) : Except Fault (List Token) :=
  if text.all isReadable then
    let text := if text.head? = some orderMark then text.tail else text
    (Scan.start text).run (text.length + 2)
  else .error .malformed

end CommandHost.Yaml
