import CommandHost.Error.IllegalUse

/-!
# A place in a YAML text

A `Cursor` is what is left of a text together with the line and the column of
its first character. Past the end every character is the null character, which
no text that is read holds.
-/

namespace CommandHost.Yaml

/-- Why a YAML text is refused. -/
inductive Fault where
  /-- The text is no YAML document, or holds a value that is not supported. -/
  | malformed
  /-- A value is written in a way that its kind does not allow. -/
  | illegal (cause : IllegalUse)

/-- What is left of a text, and where it begins. -/
structure Cursor where
  rest : List Char
  index : Nat
  line : Nat
  column : Nat

/-- A reader gives what it read and the place behind it. -/
abbrev Step (α : Type) := Cursor → Except Fault (α × Cursor)

/-- The character past the end. -/
def ending : Char := '\x00'

/-- The characters that end a line. -/
def isBreak (c : Char) : Bool :=
  c = '\n' || c = '\r' || c = '\x85' || c = '\u2028' || c = '\u2029'

/-- The end of a line or of the text. -/
def isBreakOrEnd (c : Char) : Bool := c = ending || isBreak c

/-- A space, the end of a line or of the text. -/
def isSpaceOrEnd (c : Char) : Bool := c = ' ' || isBreakOrEnd c

/-- A space, a tab, the end of a line or of the text. -/
def isGapOrEnd (c : Char) : Bool := c = '\t' || isSpaceOrEnd c

/-- The mark that may stand at the beginning of a text. -/
def orderMark : Char := '\uFEFF'

namespace Cursor

/-- The beginning of a text. -/
def start (text : List Char) : Cursor := ⟨text, 0, 0, 0⟩

/-- The character that stands a number of places ahead. -/
def peek (cursor : Cursor) (ahead : Nat) : Char := (cursor.rest[ahead]?).getD ending

/-- The character at a place. -/
def here (cursor : Cursor) : Char := cursor.rest.headD ending

/-- The place after the next character. -/
def next (cursor : Cursor) : Cursor :=
  match cursor.rest with
  | [] => cursor
  | c :: rest =>
    let breaks := isBreak c && !(c = '\r' && rest.head? = some '\n')
    if breaks then ⟨rest, cursor.index + 1, cursor.line + 1, 0⟩
    else
      ⟨rest, cursor.index + 1, cursor.line,
        if c = orderMark then cursor.column else cursor.column + 1⟩

/-- The place after a number of characters. -/
def skip (cursor : Cursor) : Nat → Cursor
  | 0 => cursor
  | count + 1 => cursor.next.skip count

/-- The longest run of characters of a class, and the place behind it. -/
def span (cursor : Cursor) (belongs : Char → Bool) : List Char × Cursor :=
  let run := cursor.rest.takeWhile belongs
  (run, cursor.skip run.length)

/-- The place behind the spaces. -/
def skipSpaces (cursor : Cursor) : Cursor := (cursor.span (· = ' ')).2

/-- The place behind a comment, if one begins here. -/
def skipComment (cursor : Cursor) : Cursor :=
  if cursor.here = '#' then (cursor.span fun c => !isBreakOrEnd c).2 else cursor

/-- One line break, as it is kept in a value: the line and paragraph separators as
they are, every other break as a line feed. Where no line ends nothing is read. -/
def readBreak (cursor : Cursor) : List Char × Cursor :=
  let c := cursor.here
  if c = '\r' || c = '\n' || c = '\x85' then
    (['\n'], cursor.skip (if c = '\r' && cursor.peek 1 = '\n' then 2 else 1))
  else if c = '\u2028' || c = '\u2029' then ([c], cursor.next)
  else ([], cursor)

/-- Whether a line begins here with one of the two document marks. -/
def atDocumentMark (cursor : Cursor) : Bool :=
  ("---".toList.isPrefixOf cursor.rest || "...".toList.isPrefixOf cursor.rest) &&
    isGapOrEnd (cursor.peek 3)

end Cursor

/-- The characters that a text may hold. -/
def isReadable (c : Char) : Bool :=
  c = '\t' || c = '\n' || c = '\r' || (' ' ≤ c && c ≤ '~') || c = '\x85' ||
    ('\xA0' ≤ c && c ≤ '\uFFFD') || 0x10000 ≤ c.toNat

end CommandHost.Yaml
