import CommandHost.Text.Digit
import CommandHost.Text.Printable

/-!
# Quoted text

A text inside a printed list or mapping stands between quotes. Single quotes
are used, unless the text holds a single quote and no double quote. Backslash,
the quote in use, line feed, carriage return and tab are escaped by a letter,
all other characters that are not printable by their code.
-/

namespace CommandHost.Text

/-- The quote that a quoted text stands in. -/
def quoteFor (text : List Char) : Char :=
  if text.contains '\'' && !text.contains '"' then '"' else '\''

/-- How one character is written between quotes of the given kind. -/
def escapeChar (quote c : Char) : List Char :=
  if c = '\\' then ['\\', '\\']
  else if c = quote then ['\\', c]
  else if c = '\n' then ['\\', 'n']
  else if c = '\r' then ['\\', 'r']
  else if c = '\t' then ['\\', 't']
  else if isPrintable c then [c]
  else if c.toNat < 0x100 then '\\' :: 'x' :: hexDigits 2 c.toNat
  else if c.toNat < 0x10000 then '\\' :: 'u' :: hexDigits 4 c.toNat
  else '\\' :: 'U' :: hexDigits 8 c.toNat

/-- The text between quotes, with escapes. -/
def quoted (text : List Char) : List Char :=
  let quote := quoteFor text
  quote :: text.flatMap (escapeChar quote) ++ [quote]

/-- The string between quotes, with escapes. -/
def quotedString (text : String) : String := String.ofList (quoted text.toList)

end CommandHost.Text
