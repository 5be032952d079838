import CommandHost.Error.IllegalUse
import CommandHost.Text.Digit
import CommandHost.Text.Identifier

/-!
# Replacement templates

A text that holds a backslash and stands for a replacement is a template: after a
backslash, letters and digits have special meanings. A template without groups
other than the whole match, number zero, is a list of `Piece`s; any other group
and any unknown letter is refused. A backslash before another character stands
for itself.
-/

namespace CommandHost.Template

/-- What a template consists of. -/
inductive Piece where
  | plain (c : Char)
  | wholeMatch
  deriving DecidableEq, Repr

/-- The units of a template: single characters and escaped ones. A backslash at the
end escapes nothing. -/
inductive Mark where
  | plain (c : Char)
  | escaped (c : Char)
  | dangling
  deriving DecidableEq, Repr

/-- Cuts a template into its units. -/
def marks : List Char → List Mark
  | [] => []
  | ['\\'] => [.dangling]
  | '\\' :: c :: rest => .escaped c :: marks rest
  | c :: rest => .plain c :: marks rest

/-- Whether a character is a digit of base eight. -/
def isOctal (c : Char) : Bool := '0' ≤ c && c ≤ '7'

/-- The number that up to three digits of base eight write. -/
def octal (digits : List Char) : Nat := digits.foldl (fun number c => number * 8 + (c.toNat - 48)) 0

/-- The control characters that are escaped by a letter, and the backslash. -/
def control? : Char → Option Char
  | 'a' => some '\x07'
  | 'b' => some '\x08'
  | 'f' => some '\x0c'
  | 'n' => some '\n'
  | 'r' => some '\r'
  | 't' => some '\t'
  | 'v' => some '\x0b'
  | '\\' => some '\\'
  | _ => none

/-- The name of a group: what stands before the closing bracket, and what follows. -/
def groupName : List Mark → Option (List Char × List Mark)
  | [] => none
  | .plain '>' :: rest => some ([], rest)
  | .plain c :: rest => (groupName rest).map fun (name, after) => (c :: name, after)
  | .escaped c :: rest => (groupName rest).map fun (name, after) => ('\\' :: c :: name, after)
  | .dangling :: _ => none

/-- What a group refers to. Group zero is the only one there is. -/
def group (name : List Char) (after : List Mark) : Except IllegalUse Piece :=
  if name.isEmpty || after.head? == some .dangling then .error .badTemplate
  else if Text.isIdentifier name then .error (.unknownGroup (String.ofList name))
  else if Text.readInteger? name == some 0 then .ok .wholeMatch
  else .error .badTemplate

/-- Reads the pieces of a template from its units. The first argument bounds the
number of pieces. -/
def pieces : Nat → List Mark → Except IllegalUse (List Piece)
  | _, [] => .ok []
  | 0, _ :: _ => .error .badTemplate
  | _ + 1, .dangling :: _ => .error .badTemplate
  | steps + 1, .plain c :: rest => (pieces steps rest).map (.plain c :: ·)
  | steps + 1, .escaped 'g' :: .plain '<' :: rest =>
    match groupName rest with
    | none => .error .badTemplate
    | some (name, after) =>
      match group name after with
      | .error fault => .error fault
      | .ok piece => (pieces steps after).map (piece :: ·)
  | steps + 1, .escaped c :: rest =>
    if c = '0' then
      match rest with
      | .plain d :: .plain e :: after =>
        if isOctal d && isOctal e then
          (pieces steps after).map (.plain (Char.ofNat (octal [d, e])) :: ·)
        else if isOctal d then
          (pieces steps (.plain e :: after)).map (.plain (Char.ofNat (octal [d])) :: ·)
        else (pieces steps rest).map (.plain '\x00' :: ·)
      | .plain d :: after =>
        if isOctal d then (pieces steps after).map (.plain (Char.ofNat (octal [d])) :: ·)
        else (pieces steps rest).map (.plain '\x00' :: ·)
      | _ => (pieces steps rest).map (.plain '\x00' :: ·)
    else if Text.isPlainDigit c then
      match rest with
      | .plain d :: .plain e :: after =>
        if isOctal c && isOctal d && isOctal e && octal [c, d, e] < 256 then
          (pieces steps after).map (.plain (Char.ofNat (octal [c, d, e])) :: ·)
        else .error .badTemplate
      | _ => .error .badTemplate
    else
      match control? c with
      | some code => (pieces steps rest).map (.plain code :: ·)
      | none =>
        if c.isAlpha then .error .badTemplate
        else (pieces steps rest).map (fun tail => .plain '\\' :: .plain c :: tail)

/-- Reads a template. -/
def read (template : List Char) : Except IllegalUse (List Piece) :=
  pieces (template.length + 1) (marks template)

/-- The replacement of one matched character. -/
def fill (template : List Piece) (found : Char) : List Char :=
  template.map fun
    | .plain c => c
    | .wholeMatch => found

end CommandHost.Template
