import CommandHost.Text.Digit
import CommandHost.Yaml.Cursor
import CommandHost.Yaml.Token

/-!
# Anchors, tags and directives

The readers of the labels that can stand in front of a node and of the
directives that can stand in front of a document.
-/

namespace CommandHost.Yaml

/-- The characters of names. -/
def isNameChar (c : Char) : Bool := c.isAlphanum || c = '-' || c = '_'

/-- A name that is not empty. -/
def readName : Step String := fun cursor =>
  let (name, after) := cursor.span isNameChar
  if name.isEmpty then .error .malformed else .ok (String.ofList name, after)

/-- The name of an anchor or an alias, behind its mark. -/
def readAnchor : Step String := fun cursor => do
  let (name, after) ← readName cursor.next
  let c := after.here
  if isGapOrEnd c || "?:,]\x7d%@`".toList.contains c then return (name, after)
  else throw .malformed

/-! ## Tags -/

/-- The characters of the rest of a tag. -/
def isTagChar (c : Char) : Bool := c.isAlphanum || "-;/?:@&=+$,_.!~*'()[]%".toList.contains c

/-- A run of characters written by their code numbers. -/
def readEscapes : Nat → List UInt8 → Cursor → Except Fault (List UInt8 × Cursor)
  | 0, sofar, cursor => .ok (sofar.reverse, cursor)
  | fuel + 1, sofar, cursor =>
    if cursor.here = '%' then
      match Text.hexValue? (cursor.peek 1), Text.hexValue? (cursor.peek 2) with
      | some high, some low =>
        readEscapes fuel (UInt8.ofNat (16 * high + low) :: sofar) (cursor.skip 3)
      | _, _ => .error .malformed
    else .ok (sofar.reverse, cursor)

/-- The pieces of the rest of a tag. -/
def readTagPieces : Nat → List Char → Cursor → Except Fault (List Char × Cursor)
  | 0, sofar, cursor => .ok (sofar, cursor)
  | fuel + 1, sofar, cursor =>
    let c := cursor.here
    if c = '%' then
      match readEscapes (cursor.rest.length + 1) [] cursor with
      | .error fault => .error fault
      | .ok (bytes, after) =>
        match String.fromUTF8? ⟨bytes.toArray⟩ with
        | some content => readTagPieces fuel (sofar ++ content.toList) after
        | none => .error .malformed
    else if isTagChar c then
      let (run, after) := cursor.span fun c => isTagChar c && c ≠ '%'
      readTagPieces fuel (sofar ++ run) after
    else .ok (sofar, cursor)

/-- The rest of a tag, which is not empty. -/
def readTagTail : Step String := fun cursor => do
  let (content, after) ← readTagPieces (cursor.rest.length + 1) [] cursor
  if after.index = cursor.index then throw .malformed
  return (String.ofList content, after)

/-- The handle of a tag: one mark, or a name between two. -/
def readTagHandle : Step String := fun cursor =>
  if cursor.here ≠ '!' then .error .malformed
  else if cursor.peek 1 = ' ' then .ok ("!", cursor.next)
  else
    let (name, after) := cursor.next.span isNameChar
    if after.here = '!' then .ok ("!" ++ String.ofList name ++ "!", after.next)
    else .error .malformed

/-- A tag. -/
def readTag : Step TagText := fun cursor => do
  let c := cursor.peek 1
  let (tag, after) ←
    if c = '<' then
      let (tail, after) ← readTagTail (cursor.skip 2)
      if after.here ≠ '>' then throw Fault.malformed
      pure (TagText.mk none tail, after.next)
    else if isGapOrEnd c then pure (TagText.mk none "!", cursor.next)
    else
      let word := cursor.next.rest.takeWhile fun c => !isSpaceOrEnd c
      let (handle, after) ←
        if word.contains '!' then readTagHandle cursor else pure ("!", cursor.next)
      let (tail, after) ← readTagTail after
      pure (TagText.mk (some handle) tail, after)
  if isSpaceOrEnd after.here then return (tag, after) else throw .malformed

/-! ## Directives -/

/-- A number of a version. -/
def readVersionNumber : Step Nat := fun cursor =>
  let (digits, after) := cursor.span Char.isDigit
  if digits.isEmpty then .error .malformed
  else if digitLimit < digits.length then .error (.illegal (.longNumber digits.length))
  else .ok (digits.foldl (fun sofar c => 10 * sofar + (c.toNat - '0'.toNat)) 0, after)

/-- The rest of a line that may hold nothing but a comment, and the break behind it. -/
def skipLine : Cursor → Except Fault Cursor := fun cursor =>
  let after := cursor.skipSpaces.skipComment
  if isBreakOrEnd after.here then .ok after.readBreak.2 else .error .malformed

/-- What stands in a directive behind its name. -/
def readDirectiveValue (name : String) : Step Directive := fun cursor => do
  if name = "YAML" then
    let (major, after) ← readVersionNumber cursor.skipSpaces
    if after.here ≠ '.' then throw .malformed
    let (minor, after) ← readVersionNumber after.next
    if isSpaceOrEnd after.here then return (.version major minor, after) else throw .malformed
  else if name = "TAG" then
    let (handle, after) ← readTagHandle cursor.skipSpaces
    if after.here ≠ ' ' then throw .malformed
    let (start, after) ← readTagTail after.skipSpaces
    if isSpaceOrEnd after.here then return (.tag handle start, after) else throw .malformed
  else return (.other, (cursor.span fun c => !isBreakOrEnd c).2)

/-- A directive, up to the end of its line. -/
def readDirective : Step Directive := fun cursor => do
  let (name, after) ← readName cursor.next
  if !isSpaceOrEnd after.here then throw .malformed
  let (directive, after) ← readDirectiveValue name after
  return (directive, ← skipLine after)

end CommandHost.Yaml
