import CommandHost.Value.Print

/-!
# Illegal uses of values

Uses of a value that its kind does not allow: reading a number as a mapping,
looking up a list as a key, and the like. Each is a cause with a class, by which
a caller tells them apart, and a text. Writing a value out is one of these uses:
its integers may be too long, and its lists and mappings nested too deep.
-/

namespace CommandHost

/-- The ways in which a value can be misused. -/
inductive IllegalUse where
  /-- A value that has no items was to be read item by item. -/
  | notIterable (kind : String)
  /-- An item of a list of pairs that has no items itself. -/
  | noPair (position : Nat)
  /-- An item of a list of pairs that has another length than two. -/
  | pairLength (position length : Nat)
  /-- A list or mapping that was to be a key. -/
  | unhashable (kind : String)
  /-- A key that holds nothing. -/
  | missingKey (key : Value)
  /-- A value that lacks an attribute. -/
  | missingAttribute (kind name : String)
  /-- A value that an attribute of this name does not take. -/
  | unfitAttribute (name kind : String)
  /-- A value that was to be called. -/
  | notCallable (kind : String)
  /-- Names of which some are no texts, so that they cannot be put in order. -/
  | mixedNames
  /-- A number with more digits than are read or written. -/
  | longNumber (digits : Nat)
  /-- A replacement template that cannot be read. -/
  | badTemplate
  /-- A replacement template that refers to a group by an unknown name. -/
  | unknownGroup (name : String)
  /-- Arguments that a signature does not admit. -/
  | badArguments
  /-- A text that does not write a number or a date of the asked kind. -/
  | badNotation
  /-- An empty text where a number was to stand. -/
  | emptyNotation
  /-- A nesting that is too deep. -/
  | tooDeep

/-- The most digits that are read as one integer, or written for one. -/
def digitLimit : Nat := 4300

/-- How deep lists and mappings may be nested in a value that is written out.  What is
going on around the writing is not counted. -/
def nestingLimit : Nat := 1000

namespace IllegalUse

/-- The class of an illegal use. -/
def className : IllegalUse → String
  | notIterable _ | noPair _ | unhashable _ | unfitAttribute _ _ | notCallable _ | mixedNames
  | badArguments => "TypeError"
  | pairLength _ _ | longNumber _ | badNotation => "ValueError"
  | missingKey _ => "KeyError"
  | missingAttribute _ _ => "AttributeError"
  | badTemplate => "error"
  | unknownGroup _ | emptyNotation => "IndexError"
  | tooDeep => "RecursionError"

/-- The text of an illegal use. -/
def message : IllegalUse → String
  | notIterable kind => "'" ++ kind ++ "' object is not iterable"
  | noPair position =>
    "cannot convert dictionary update sequence element #" ++ intText position ++ " to a sequence"
  | pairLength position length =>
    "dictionary update sequence element #" ++ intText position ++ " has length " ++
      intText length ++ "; 2 is required"
  | unhashable kind => "unhashable type: '" ++ kind ++ "'"
  | missingKey key => key.literal
  | missingAttribute kind name => "'" ++ kind ++ "' object has no attribute '" ++ name ++ "'"
  | unfitAttribute name kind =>
    "attribute '" ++ name ++ "' does not take a '" ++ kind ++ "' object"
  | notCallable kind => "'" ++ kind ++ "' object is not callable"
  | mixedNames => "names of different kinds cannot be put in order"
  | longNumber digits =>
    "a number of " ++ intText digits ++ " digits is over the limit of " ++ intText digitLimit
  | badTemplate => "bad escape in replacement template"
  | unknownGroup name => "unknown group name " ++ Text.quotedString name
  | badArguments => "the arguments do not match the signature"
  | badNotation => "invalid literal"
  | emptyNotation => "string index out of range"
  | tooDeep => "maximum recursion depth exceeded"

end IllegalUse

/-- The name of the kind of a value. -/
def Value.kindName : Value → String
  | .null => "NoneType"
  | .bool _ => "bool"
  | .int _ => "int"
  | .float _ => "float"
  | .text _ => "str"
  | .atom (.moment _) => "datetime.date"
  | .object _ => "RuntimeObject"
  | .list _ => "list"
  | .map _ => "dict"

/-- What keeps an atom from being written out: an integer can be too long. -/
def Atom.obstacle? : Atom → Option IllegalUse
  | .int number =>
    let digits := (Nat.toDigits 10 number.natAbs).length
    if digitLimit < digits then some (.longNumber digits) else none
  | _ => none

namespace Value

/-- A value as a key. -/
def toKey : Value → Except IllegalUse Atom
  | .atom content => .ok content
  | value => .error (.unhashable value.kindName)

/-- The items of a value: the characters of a text, the items of a list, the keys of
a mapping. -/
def items? : Value → Option (List Value)
  | .text content => some (content.toList.map fun c => .text (String.singleton c))
  | .list items => some items
  | .map entries => some (entries.map fun entry => .atom entry.1)
  | _ => none

/-- The items of a value that has items. -/
def toItems (value : Value) : Except IllegalUse (List Value) :=
  match value.items? with
  | some items => .ok items
  | none => .error (.notIterable value.kindName)

/-- One item of a list of pairs as a key and a value. -/
def toPair (position : Nat) (item : Value) : Except IllegalUse (Atom × Value) :=
  match item.items? with
  | none => .error (.noPair position)
  | some [key, value] => key.toKey.map fun atom => (atom, value)
  | some items => .error (.pairLength position items.length)

/-- Assigns the pairs of a list one after another, counting them from `position`. -/
def pairsFrom (sofar : Entries) (position : Nat) : List Value → Except IllegalUse Entries
  | [] => .ok sofar
  | item :: rest =>
    match toPair position item with
    | .error fault => .error fault
    | .ok (key, value) => pairsFrom (sofar.assign key value) (position + 1) rest

/-- A value read as a mapping: a mapping is itself, any other value has to be a
list of pairs. -/
def toEntries (value : Value) : Except IllegalUse Entries :=
  match value with
  | .map entries => .ok entries
  | _ =>
    match value.toItems with
    | .error fault => .error fault
    | .ok items => pairsFrom [] 0 items

mutual

/-- What keeps a value from being written out, if as many levels of nesting are left: the
first obstacle from its beginning to its end. -/
def obstacle? : Nat → Value → Option IllegalUse
  | 0, _ => some .tooDeep
  | _ + 1, .atom content => content.obstacle?
  | levels + 1, .list items => itemsObstacle? levels items
  | levels + 1, .map entries => entriesObstacle? levels entries

/-- What keeps the items of a list from being written out. -/
def itemsObstacle? (levels : Nat) : List Value → Option IllegalUse
  | [] => none
  | item :: rest => (obstacle? levels item).or (itemsObstacle? levels rest)

/-- What keeps the entries of a mapping from being written out. -/
def entriesObstacle? (levels : Nat) : List (Atom × Value) → Option IllegalUse
  | [] => none
  | (key, value) :: rest =>
    key.obstacle?.or ((obstacle? levels value).or (entriesObstacle? levels rest))

end

/-- The text of a value, if it can be written out. -/
def toText (value : Value) : Except IllegalUse String :=
  match value.obstacle? nestingLimit with
  | none => .ok value.print
  | some cause => .error cause

@[simp] theorem toEntries_map (entries : Entries) : toEntries (.map entries) = .ok entries := rfl

end Value

/-- The text of an illegal use, if it can be written. The key that holds nothing is written
out as it is. -/
def IllegalUse.toText : IllegalUse → Except IllegalUse String
  | .missingKey key =>
    match key.obstacle? nestingLimit with
    | none => .ok (message (.missingKey key))
    | some cause => .error cause
  | cause => .ok cause.message

end CommandHost
