import CommandHost.Text.Digit
import CommandHost.Yaml.Label

/-!
# The scalars of a YAML text

Quoted scalars, block scalars and plain scalars, each read up to its end. Lines
are folded: a single break becomes a space, of several ones the first is
dropped.
-/

namespace CommandHost.Yaml

/-! ## Quoted scalars -/

/-- The characters that are written by one letter behind a backslash. -/
def escapeLetters : List (Char × Char) :=
  [('0', '\x00'), ('a', '\x07'), ('b', '\x08'), ('t', '\t'), ('\t', '\t'), ('n', '\n'),
    ('v', '\x0B'), ('f', '\x0C'), ('r', '\r'), ('e', '\x1B'), (' ', ' '), ('"', '"'),
    ('\\', '\\'), ('/', '/'), ('N', '\x85'), ('_', '\xA0'), ('L', '\u2028'), ('P', '\u2029')]

/-- The letters that announce a code number, with its count of digits. -/
def escapeCounts : List (Char × Nat) := [('x', 2), ('u', 4), ('U', 8)]

/-- The breaks of empty lines inside quotes, with the spaces around them. -/
def readQuotedBreaks : Nat → List Char → Cursor → Except Fault (List Char × Cursor)
  | 0, sofar, cursor => .ok (sofar, cursor)
  | fuel + 1, sofar, cursor =>
    if cursor.atDocumentMark then .error .malformed
    else
      let after := (cursor.span fun c => c = ' ' || c = '\t').2
      if isBreak after.here then
        let (content, after) := after.readBreak
        readQuotedBreaks fuel (sofar ++ content) after
      else .ok (sofar, after)

/-- A folded line end: the first break and those of the empty lines behind it. -/
def foldBreaks (first others : List Char) : List Char :=
  if first ≠ ['\n'] then first ++ others else if others.isEmpty then [' '] else others

/-- The blanks inside quotes, with the line ends among them folded. -/
def readQuotedBlanks : Step (List Char) := fun cursor => do
  let (blanks, after) := cursor.span fun c => c = ' ' || c = '\t'
  if after.here = ending then throw .malformed
  else if isBreak after.here then
    let (first, after) := after.readBreak
    let (others, after) ← readQuotedBreaks (after.rest.length + 1) [] after
    return (foldBreaks first others, after)
  else return (blanks, after)

/-- A code number of a count of digits. -/
def readCode (count : Nat) (cursor : Cursor) : Except Fault (List Char × Cursor) :=
  let digits := cursor.rest.take count
  match digits.mapM Text.hexValue? with
  | none => .error .malformed
  | some values =>
    if values.length < count then .error .malformed
    else
      let code := values.foldl (fun sofar value => 16 * sofar + value) 0
      if 0x110000 ≤ code then .error (.illegal .badNotation)
      else .ok ([Char.ofNat code], cursor.skip count)

/-- What a backslash stands for, read behind it. -/
def readEscape (cursor : Cursor) : Except Fault (List Char × Cursor) :=
  let c := cursor.here
  match escapeLetters.lookup c with
  | some content => .ok ([content], cursor.next)
  | none =>
    match escapeCounts.lookup c with
    | some count => readCode count cursor.next
    | none =>
      if isBreak c then
        let after := cursor.readBreak.2
        readQuotedBreaks (after.rest.length + 1) [] after
      else .error .malformed

/-- The content of a quoted scalar, read behind its first quote. -/
def readQuotedFrom (quote : Char) : Nat → List Char → Cursor → Except Fault (List Char × Cursor)
  | 0, _, _ => .error .malformed
  | fuel + 1, sofar, cursor =>
    let c := cursor.here
    if c = quote then
      if quote = '\'' && cursor.peek 1 = '\'' then
        readQuotedFrom quote fuel (sofar ++ ['\'']) (cursor.skip 2)
      else .ok (sofar, cursor.next)
    else if c = '\\' && quote = '"' then
      match readEscape cursor.next with
      | .error fault => .error fault
      | .ok (content, after) => readQuotedFrom quote fuel (sofar ++ content) after
    else if isGapOrEnd c then
      match readQuotedBlanks cursor with
      | .error fault => .error fault
      | .ok (content, after) => readQuotedFrom quote fuel (sofar ++ content) after
    else
      let (run, after) := cursor.span fun c =>
        !isGapOrEnd c && c ≠ quote && !(c = '\\' && quote = '"')
      readQuotedFrom quote fuel (sofar ++ run) after

/-- A quoted scalar. -/
def readQuoted : Step String := fun cursor => do
  let (content, after) ← readQuotedFrom cursor.here (cursor.rest.length + 1) [] cursor.next
  return (String.ofList content, after)

/-! ## Block scalars -/

/-- What happens to the line ends behind a block scalar. -/
inductive Chomping where
  | strip
  | clip
  | keep
  deriving DecidableEq, Repr

/-- The sign for the line ends, if one stands here. -/
def readChomping (cursor : Cursor) : Option Chomping × Cursor :=
  if cursor.here = '+' then (some .keep, cursor.next)
  else if cursor.here = '-' then (some .strip, cursor.next)
  else (none, cursor)

/-- The digit for the indentation, if one stands here. -/
def readIndent (cursor : Cursor) : Except Fault (Option Nat × Cursor) :=
  let c := cursor.here
  if c = '0' then .error .malformed
  else if c.isDigit then .ok (some (c.toNat - '0'.toNat), cursor.next)
  else .ok (none, cursor)

/-- The signs behind the mark of a block scalar, in either order. -/
def readBlockSigns : Step (Chomping × Option Nat) := fun cursor => do
  let (chomping, after) := readChomping cursor
  let (indent, after) ← readIndent after
  let (chomping, after) :=
    if chomping.isNone && indent.isSome then readChomping after else (chomping, after)
  if isSpaceOrEnd after.here then return ((chomping.getD .clip, indent), after)
  else throw .malformed

/-- The empty lines in front of a block scalar, and the deepest column that their
spaces reach. -/
def readBlockIndent : Nat → List Char → Nat → Cursor → List Char × Nat × Cursor
  | 0, breaks, deepest, cursor => (breaks, deepest, cursor)
  | fuel + 1, breaks, deepest, cursor =>
    if cursor.here = ' ' then
      let after := cursor.next
      readBlockIndent fuel breaks (max deepest after.column) after
    else if isBreak cursor.here then
      let (content, after) := cursor.readBreak
      readBlockIndent fuel (breaks ++ content) deepest after
    else (breaks, deepest, cursor)

/-- The spaces up to a column. -/
def skipIndent (indent : Nat) (cursor : Cursor) : Cursor :=
  cursor.skip (min (cursor.rest.takeWhile (· = ' ')).length (indent - cursor.column))

/-- The empty lines inside a block scalar, and the indentation of the next line. -/
def readBlockBreaks (indent : Nat) : Nat → List Char → Cursor → List Char × Cursor
  | 0, breaks, cursor => (breaks, cursor)
  | fuel + 1, breaks, cursor =>
    let after := skipIndent indent cursor
    if isBreak after.here then
      let (content, after) := after.readBreak
      readBlockBreaks indent fuel (breaks ++ content) after
    else (breaks, after)

/-- The lines of a block scalar, its last line break and the empty lines behind it. -/
def readBlockLines (folded : Bool) (indent : Nat) :
    Nat → List Char → List Char → List Char → Cursor →
      List Char × List Char × List Char × Cursor
  | 0, sofar, last, breaks, cursor => (sofar, last, breaks, cursor)
  | fuel + 1, sofar, last, breaks, cursor =>
    if cursor.column = indent && cursor.here ≠ ending then
      let leading := cursor.here
      let solid := leading ≠ ' ' && leading ≠ '\t'
      let (line, after) := cursor.span fun c => !isBreakOrEnd c
      let (ended, after) := after.readBreak
      let (empties, after) := readBlockBreaks indent (after.rest.length + 1) [] after
      let content := sofar ++ breaks ++ line
      if after.column = indent && after.here ≠ ending then
        let joined :=
          if folded && ended = ['\n'] && solid && after.here ≠ ' ' && after.here ≠ '\t' then
            if empties.isEmpty then [' '] else []
          else ended
        readBlockLines folded indent fuel (content ++ joined) ended empties after
      else (content, ended, empties, after)
    else (sofar, last, breaks, cursor)

/-- A block scalar inside a block that is indented by `outer` columns, or by none if
there is no such block. -/
def readBlock (outer : Option Nat) : Step String := fun cursor => do
  let folded := cursor.here = '>'
  let ((chomping, sign), after) ← readBlockSigns cursor.next
  let after ← skipLine after
  let least := max 1 ((outer.map (· + 1)).getD 0)
  let (breaks, indent, after) :=
    match sign with
    | none =>
      let (breaks, deepest, after) := readBlockIndent (after.rest.length + 1) [] 0 after
      (breaks, max least deepest, after)
    | some sign =>
      let indent := least + sign - 1
      let (breaks, after) := readBlockBreaks indent (after.rest.length + 1) [] after
      (breaks, indent, after)
  let (content, last, empties, after) :=
    readBlockLines folded indent (after.rest.length + 1) [] [] breaks after
  let tail :=
    match chomping with
    | .strip => []
    | .clip => last
    | .keep => last ++ empties
  return (String.ofList (content ++ tail), after)

/-! ## Plain scalars -/

/-- The breaks of empty lines behind a line of a plain scalar, unless a document mark
comes first. -/
def readPlainBreaks : Nat → List Char → Cursor → Option (List Char) × Cursor
  | 0, sofar, cursor => (some sofar, cursor)
  | fuel + 1, sofar, cursor =>
    if cursor.here = ' ' then readPlainBreaks fuel sofar cursor.next
    else if isBreak cursor.here then
      let (content, after) := cursor.readBreak
      if after.atDocumentMark then (none, after) else readPlainBreaks fuel (sofar ++ content) after
    else (some sofar, cursor)

/-- The blanks behind a piece of a plain scalar, folded, and whether a line ended. The
scalar cannot go on where they are empty. -/
def readPlainBlanks (cursor : Cursor) : List Char × Bool × Cursor :=
  let (blanks, after) := cursor.span (· = ' ')
  if isBreak after.here then
    let (first, after) := after.readBreak
    if after.atDocumentMark then ([], true, after)
    else
      match readPlainBreaks (after.rest.length + 1) [] after with
      | (none, after) => ([], true, after)
      | (some others, after) => (foldBreaks first others, true, after)
  else (blanks, false, after)

/-- The flow indicators that end a plain scalar inside brackets. -/
def isFlowMark (c : Char) : Bool := [',', '?', '[', ']', '\x7b', '\x7d'].contains c

/-- The length of the piece of a plain scalar that begins here. -/
def plainLength (inFlow : Bool) : List Char → Nat
  | [] => 0
  | c :: rest =>
    let follower := rest.headD ending
    let ends :=
      isGapOrEnd c ||
        (c = ':' && (isGapOrEnd follower || (inFlow && follower ≠ '?' && isFlowMark follower))) ||
        (inFlow && isFlowMark c)
    if ends then 0 else plainLength inFlow rest + 1

/-- The pieces of a plain scalar. The flag says whether a line ended behind the last
piece. -/
def readPlainFrom (inFlow : Bool) (indent : Nat) :
    Nat → List Char → List Char → Bool → Cursor → List Char × Bool × Cursor
  | 0, sofar, _, ended, cursor => (sofar, ended, cursor)
  | fuel + 1, sofar, blanks, ended, cursor =>
    if cursor.here = '#' then (sofar, ended, cursor)
    else
      let length := plainLength inFlow cursor.rest
      if length = 0 then (sofar, ended, cursor)
      else
        let content := sofar ++ blanks ++ cursor.rest.take length
        let (blanks, ended, after) := readPlainBlanks (cursor.skip length)
        if blanks.isEmpty || after.here = '#' || (!inFlow && after.column < indent) then
          (content, ended, after)
        else readPlainFrom inFlow indent fuel content blanks ended after

/-- A plain scalar whose further lines are indented by at least `indent` columns. The
flag says whether a line ended behind it. -/
def readPlain (inFlow : Bool) (indent : Nat) (cursor : Cursor) : String × Bool × Cursor :=
  let (content, ended, after) :=
    readPlainFrom inFlow indent (cursor.rest.length + 1) [] [] false cursor
  (String.ofList content, ended, after)

end CommandHost.Yaml
