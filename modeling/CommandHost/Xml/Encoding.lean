/-!
# Documents in pairs of bytes

A document is read character by character, unless one of its first two bytes is
zero: its bytes are then taken in pairs, each of which is a character or half of
one, with the zero byte of the first pair as the higher one. `paired?` gives the
characters of such a document.
-/

namespace CommandHost.Xml

/-- The characters of a document in pairs of bytes, and whether a single byte is left
at its end. -/
structure Paired where
  text : List Char
  ragged : Bool

namespace Paired

/-- The numbers of the pairs of bytes, and whether a single byte is left. -/
def units (highFirst : Bool) : List UInt8 → List Nat × Bool
  | [] => ([], false)
  | [_] => ([], true)
  | first :: second :: rest =>
    let (others, ragged) := units highFirst rest
    let unit :=
      if highFirst then first.toNat * 256 + second.toNat else second.toNat * 256 + first.toNat
    (unit :: others, ragged)

/-- A character that no document may hold. -/
def forbidden : Char := '\uFFFE'

/-- The characters of units, of which two may make up one character. A half without its
other half stands for no character. -/
def chars : List Nat → List Char
  | [] => []
  | [unit] => [if 0xD800 ≤ unit && unit < 0xE000 then forbidden else Char.ofNat unit]
  | unit :: next :: rest =>
    if 0xD800 ≤ unit && unit < 0xDC00 && 0xDC00 ≤ next && next < 0xE000 then
      Char.ofNat (0x10000 + (unit - 0xD800) * 0x400 + (next - 0xDC00)) :: chars rest
    else if 0xD800 ≤ unit && unit < 0xE000 then forbidden :: chars (next :: rest)
    else Char.ofNat unit :: chars (next :: rest)

/-- The document of bytes in pairs. -/
def ofBytes (highFirst : Bool) (bytes : List UInt8) : Paired :=
  let (numbers, ragged) := units highFirst bytes
  ⟨chars numbers, ragged⟩

end Paired

/-- The characters of a document that comes in pairs of bytes, if it does. -/
def paired? (document : String) : Option Paired :=
  let bytes := document.toUTF8.toList
  match bytes with
  | [first] => if first = 0 then some ⟨[], true⟩ else none
  | first :: second :: _ =>
    if first = 0 then some (.ofBytes true bytes)
    else if second = 0 then some (.ofBytes false bytes)
    else none
  | [] => none

end CommandHost.Xml
