import CommandHost.Command.Settings
import CommandHost.Command.Template
import CommandHost.Text.Pieces

/-!
# Quoted spans

A quote character opens a span if the same character occurs again; the span goes
on to its next occurrence. Inside a span, blanks are replaced by the sentinel, so
that cutting the text at blanks leaves a span whole; `unescape` puts spaces back.
A sentinel with a backslash is a template for the replacement.
-/

namespace CommandHost

/-- The two quote characters. -/
def isQuote (c : Char) : Bool := c == '"' || c == '\''

namespace Spans

/-- Replaces the blanks inside spans. The first argument is the quote of the span that
is open, if one is. -/
def mapBlanks (fill : Char → List Char) : Option Char → List Char → List Char
  | _, [] => []
  | none, c :: rest =>
    c :: mapBlanks fill (if isQuote c && rest.contains c then some c else none) rest
  | some quote, c :: rest =>
    if c = quote then c :: mapBlanks fill none rest
    else (if Text.isBlank c then fill c else [c]) ++ mapBlanks fill (some quote) rest

/-- Whether a text has a span. -/
def hasSpan : List Char → Bool
  | [] => false
  | c :: rest => (isQuote c && rest.contains c) || hasSpan rest

end Spans

namespace ReaderSettings

/-- How a blank inside a span is written. -/
def blankFill (settings : ReaderSettings) : Except IllegalUse (Char → List Char) :=
  let sentinel := settings.sentinel.toList
  if sentinel.contains '\\' then (Template.read sentinel).map Template.fill
  else .ok fun _ => sentinel

/-- Replaces the blanks inside spans by the sentinel. The sentinel is looked at only if
there is a span. -/
def escape (settings : ReaderSettings) (text : List Char) : Except IllegalUse (List Char) :=
  if Spans.hasSpan text then
    match settings.blankFill with
    | .error fault => .error fault
    | .ok fill => .ok (Spans.mapBlanks fill none text)
  else .ok text

/-- Puts a space in the place of every sentinel. -/
def unescape (settings : ReaderSettings) (text : List Char) : List Char :=
  Text.replaceAll settings.sentinel.toList [' '] text

end ReaderSettings

end CommandHost
