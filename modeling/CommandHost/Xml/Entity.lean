import CommandHost.Xml.Lexeme

/-!
# Entities and attribute values

`Declared` holds what a document declares: its entities and what it says about
the attributes of its elements. An attribute value is expanded with them, and
its separators become spaces. Values of declared entities keep their references
to entities, which are expanded where the entity is used.
-/

namespace CommandHost.Xml

/-- What the name of an entity stands for. -/
inductive Entity where
  | internal (text : List Char)
  | external
  | binary
  deriving DecidableEq, Repr

/-- What is declared about an attribute of an element. -/
structure AttributeRule where
  name : String
  /-- The value is taken as it stands. Otherwise it is a list of words with one space
  between two of them. -/
  verbatim : Bool
  default : Option (List Char)
  deriving DecidableEq, Repr

/-- What a document declares. -/
structure Declared where
  entities : List (String × Entity)
  rules : List (String × List AttributeRule)
  /-- Declarations may stand elsewhere that are not read. -/
  incomplete : Bool
  /-- The document says that no other declarations matter. -/
  standalone : Bool
  /-- Declarations still count. -/
  counting : Bool
  deriving Repr

namespace Declared

/-- What a document declares that declares nothing. -/
def nothing : Declared := ⟨[], [], false, false, true⟩

/-- Whether every entity has to be declared. -/
def strict (declared : Declared) : Bool := declared.standalone || !declared.incomplete

/-- Adds an entity, unless one of its name is declared already. -/
def addEntity (declared : Declared) (name : String) (entity : Entity) : Declared :=
  if declared.counting && (declared.entities.lookup name).isNone then
    { declared with entities := declared.entities ++ [(name, entity)] }
  else declared

/-- The rules for the attributes of an element. -/
def rulesOf (declared : Declared) (element : String) : List AttributeRule :=
  (declared.rules.lookup element).getD []

/-- Adds a rule, unless it would repeat one of its name that matters. -/
def addRule (declared : Declared) (element : String) (isId : Bool) (rule : AttributeRule) :
    Declared :=
  let rules := declared.rulesOf element
  let known := rules.any fun other => other.name = rule.name
  if !declared.counting || ((isId || rule.default.isSome) && known) then declared
  else
    { declared with
      rules :=
        (declared.rules.filter fun entry => entry.1 ≠ element) ++ [(element, rules ++ [rule])] }

end Declared

/-- How many characters the entities of a document may expand to. A longer expansion is
refused whatever the length of the document is, also where it is not a hundred times as long
as what was read. -/
def expansionLimit : Nat := 8 * 1024 * 1024

/-- A text that grows while references are expanded: its characters, the last one
first, and how much of expanded entities was read so far. -/
structure Expansion where
  reversed : List Char
  spent : Nat

namespace Expansion

/-- Adds a character. -/
def push (expansion : Expansion) (c : Char) : Expansion :=
  { expansion with reversed := c :: expansion.reversed }

/-- Adds a space; in a list of words, only behind a word. -/
def pushSpace (expansion : Expansion) (verbatim : Bool) : Expansion :=
  if !verbatim && (expansion.reversed.isEmpty || expansion.reversed.head? = some ' ') then expansion
  else expansion.push ' '

/-- Counts the text of an entity. -/
def spend (expansion : Expansion) (amount : Nat) : Except Fault Expansion :=
  let spent := expansion.spent + amount
  if expansionLimit < spent then .error .amplification else .ok { expansion with spent }

end Expansion

/-- What a reference to an entity gives: its text to go on with, or nothing at all. -/
def Declared.entityInValue (declared : Declared) (active : List String) (name : String) :
    Except Fault (Option (List Char)) :=
  match declared.entities.lookup name with
  | none => if declared.strict then .error (.undefinedEntity none) else .ok none
  | some entity =>
    if active.contains name then .error .recursiveEntity
    else
      match entity with
      | .internal text => .ok (some text)
      | .binary => .error .binaryEntity
      | .external => .error .externalInAttribute

/-- Expands the references of an attribute value and makes its separators spaces. The
names are those of the entities that are being expanded. -/
def expandValue (declared : Declared) (verbatim : Bool) :
    Nat → List String → Expansion → List Char → Except Fault Expansion
  | 0, _, _, _ => .error .amplification
  | _, _, expansion, [] => .ok expansion
  | fuel + 1, active, expansion, c :: rest =>
    if c = '&' then
      match readReference rest with
      | .error _ => .error .invalidToken
      | .ok (.character number, rest) =>
        match characterOf number with
        | .error fault => .error fault
        | .ok c =>
          let expansion := if c = ' ' then expansion.pushSpace verbatim else expansion.push c
          expandValue declared verbatim fuel active expansion rest
      | .ok (.entity name, rest) =>
        match predefined? name with
        | some c => expandValue declared verbatim fuel active (expansion.push c) rest
        | none =>
          match declared.entityInValue active name with
          | .error fault => .error fault
          | .ok none => expandValue declared verbatim fuel active expansion rest
          | .ok (some text) =>
            match expansion.spend text.length with
            | .error fault => .error fault
            | .ok expansion =>
              match expandValue declared verbatim fuel (name :: active) expansion text with
              | .error fault => .error fault
              | .ok expansion => expandValue declared verbatim fuel active expansion rest
    else if c = '<' then .error .invalidToken
    else
      let expansion := if isSpace c then expansion.pushSpace verbatim else expansion.push c
      expandValue declared verbatim fuel active expansion rest

/-- The length of everything that the entities of a document are declared as. -/
def Declared.size (declared : Declared) : Nat :=
  declared.entities.foldl (fun size (_, entity) =>
    match entity with
    | .internal text => size + text.length + 1
    | _ => size) 0

/-- The value of an attribute, and how much of expanded entities was read after it. -/
def Declared.value (declared : Declared) (active : List String) (verbatim : Bool) (spent : Nat)
    (written : List Char) : Except Fault (List Char × Nat) := do
  let fuel := written.length + declared.size + 1
  let expansion ← expandValue declared verbatim fuel active ⟨[], spent⟩ written
  let reversed :=
    if verbatim then expansion.reversed
    else
      match expansion.reversed with
      | ' ' :: others => others
      | others => others
  return (reversed.reverse, expansion.spent)

/-- The text that an entity is declared as: references to characters are replaced,
references to entities stay. -/
def readEntityText : Nat → List Char → List Char → Except Fault (List Char)
  | 0, sofar, _ => .ok sofar.reverse
  | _, sofar, [] => .ok sofar.reverse
  | fuel + 1, sofar, c :: rest =>
    if c = '&' then
      match readReference rest with
      | .error _ => .error .invalidToken
      | .ok (.character number, after) =>
        match characterOf number with
        | .error fault => .error fault
        | .ok c => readEntityText fuel (c :: sofar) after
      | .ok (.entity name, after) =>
        readEntityText fuel (';' :: (name.toList.reverse ++ '&' :: sofar)) after
    else if c = '%' then
      match readName rest with
      | .ok (_, ';' :: _) => .error .parameterReference
      | _ => .error .invalidToken
    else readEntityText fuel (c :: sofar) rest

end CommandHost.Xml
