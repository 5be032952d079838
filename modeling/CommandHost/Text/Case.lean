/-!
# Letter case, as far as ASCII words need it

A text is compared with a fixed ASCII word after its letters were brought to one
case. For that comparison only the characters whose other case is written in
ASCII matter: the ASCII letters themselves and the few characters listed here.
Every other character stays what it is, and so never becomes part of an ASCII
word.
-/

namespace CommandHost.Text

/-- The capital form of a character, where that form is ASCII. -/
def capital (c : Char) : List Char :=
  match c with
  | 'ı' => ['I']
  | 'ſ' => ['S']
  | 'ß' => ['S', 'S']
  | 'ﬀ' => ['F', 'F']
  | 'ﬁ' => ['F', 'I']
  | 'ﬂ' => ['F', 'L']
  | 'ﬃ' => ['F', 'F', 'I']
  | 'ﬄ' => ['F', 'F', 'L']
  | 'ﬅ' => ['S', 'T']
  | 'ﬆ' => ['S', 'T']
  | _ => [c.toUpper]

/-- The text in capital letters. -/
def capitals (text : List Char) : List Char := text.flatMap capital

/-- The small form of a character, where that form is ASCII. The Kelvin sign is
the one character outside ASCII that has such a form. -/
def small (c : Char) : Char := if c.toNat = 0x212A then 'k' else c.toLower

/-- The text in small letters. -/
def smalls (text : List Char) : List Char := text.map small

/-- The text with its ASCII letters made small and nothing else changed. -/
def smallsAscii (text : List Char) : List Char := text.map Char.toLower

end CommandHost.Text
