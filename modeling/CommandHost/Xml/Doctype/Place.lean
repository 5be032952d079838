import CommandHost.Xml.Declaration
import CommandHost.Xml.Doctype.Token
import CommandHost.Xml.Entity

/-!
# The grammar in front of the root element

A `Place` says what may come next: in front of the document type, inside one of
its declarations, or behind it. `Place.step` takes one token, records what it
declares and gives the next place. A token that does not fit is a fault.
-/

namespace CommandHost.Xml.Doctype

/-- An attribute declaration while it is read. -/
structure Draft where
  element : String
  name : String
  verbatim : Bool
  isId : Bool
  deriving DecidableEq, Repr

/-- How the members of a group are joined, if that is decided yet. -/
inductive Joint where
  | undecided
  | sequence
  | choice
  deriving DecidableEq, Repr

/-- What a declaration of an entity declares: an entity to be recorded, one that is
known already, or one for declarations only. -/
inductive Target where
  | general (name : String)
  | known
  | parameter
  deriving DecidableEq, Repr

/-- What may come next. -/
inductive Place where
  | start
  | front
  | doctypeName
  | doctypeSource
  | doctypePublic
  | doctypeSystem
  | doctypeSubset
  | subset
  | doctypeEnd
  | behind
  | entityName
  | parameterName
  | entityValue (target : Target)
  | entityPublic (target : Target)
  | entitySystem (target : Target)
  | entityTail (target : Target)
  | entityNotation (target : Target)
  | parameterTail
  | notationName
  | notationSource
  | notationPublic
  | notationSystem
  | notationTail
  | attributesOf
  | attributeName (element : String)
  | attributeType (draft : Draft)
  | choiceValue (draft : Draft)
  | choiceNext (draft : Draft)
  | notationOpen (draft : Draft)
  | notationValue (draft : Draft)
  | notationNext (draft : Draft)
  | attributeDefault (draft : Draft)
  | attributeFixed (draft : Draft)
  | elementName
  | elementContent
  | groupStart
  | mixedNext
  | mixedName
  | mixedMore
  | member (joints : List Joint)
  | memberNext (joints : List Joint)
  | close
  deriving DecidableEq, Repr

/-- The place reached and what is declared so far. -/
structure Progress where
  place : Place
  declared : Declared

namespace Progress

/-- Goes on to another place. -/
def moveTo (progress : Progress) (place : Place) : Progress := { progress with place }

/-- Records an entity, if it is to be recorded, and goes on. -/
def entity (progress : Progress) (target : Target) (entity : Entity) (place : Place) : Progress :=
  match target with
  | .general name => ⟨place, progress.declared.addEntity name entity⟩
  | _ => progress.moveTo place

/-- Records an attribute rule and goes on to the next attribute. -/
def rule (progress : Progress) (draft : Draft) (default : Option (List Char)) : Progress :=
  ⟨.attributeName draft.element,
    progress.declared.addRule draft.element draft.isId ⟨draft.name, draft.verbatim, default⟩⟩

end Progress

/-- Whether a public identifier may hold a character. -/
def isPublicChar (c : Char) : Bool :=
  c.isAlphanum || c = ' ' || c = '\r' || c = '\n' || "-'()+,./:=?;!*#@$_%".toList.contains c

/-- A public identifier leads to a place, if its characters are allowed. -/
def publicId (content : List Char) (progress : Progress) : Except Fault Progress :=
  if content.all isPublicChar then .ok progress else .error .badPublicId

/-- The fault of a token that does not fit. -/
def misplaced : Token → Fault
  | .parameter => .parameterReference
  | .instruction content => if content.isDeclaration then .misplacedDeclaration else .misplacedToken
  | _ => .misplacedToken

/-- The keywords of attribute types, apart from lists. -/
def typeWords : List String :=
  ["CDATA", "ID", "IDREF", "IDREFS", "ENTITY", "ENTITIES", "NMTOKEN", "NMTOKENS"]

/-- The default value of an attribute. -/
def defaultValue (progress : Progress) (draft : Draft) (content : List Char) :
    Except Fault Progress :=
  if progress.declared.counting then
    (progress.declared.value [] draft.verbatim 0 content).map fun (value, _) =>
      progress.rule draft (some value)
  else .ok (progress.rule draft none)

/-- The end of a group. -/
def endGroup : List Joint → Place
  | _ :: joint :: others => .memberNext (joint :: others)
  | _ => .close

/-- A mark between two members of a group; it has to be the one used before. -/
def join (mark other : Joint) (joints : List Joint) (progress : Progress) :
    Except Fault Progress :=
  match joints with
  | joint :: others =>
    if joint = other then .error .misplacedToken
    else .ok (progress.moveTo (.member (mark :: others)))
  | [] => .error .misplacedToken

/-- Takes the next token, which is no separator, no comment and no instruction. -/
def Place.take (progress : Progress) (token : Token) : Except Fault Progress :=
  let go (place : Place) : Except Fault Progress := .ok (progress.moveTo place)
  let refuse : Except Fault Progress := .error (misplaced token)
  match progress.place, token with
  | .start, .opening "DOCTYPE" => go .doctypeName
  | .front, .opening "DOCTYPE" => go .doctypeName
  | .doctypeName, .word .name _ => go .doctypeSource
  | .doctypeName, .word .prefixed _ => go .doctypeSource
  | .doctypeSource, .openBracket => go .subset
  | .doctypeSource, .closing => go .behind
  | .doctypeSource, .word .name "SYSTEM" => go .doctypeSystem
  | .doctypeSource, .word .name "PUBLIC" => go .doctypePublic
  | .doctypePublic, .literal content => publicId content (progress.moveTo .doctypeSystem)
  | .doctypeSystem, .literal _ =>
    .ok ⟨.doctypeSubset, { progress.declared with incomplete := true }⟩
  | .doctypeSubset, .openBracket => go .subset
  | .doctypeSubset, .closing => go .behind
  | .subset, .opening "ENTITY" => go .entityName
  | .subset, .opening "ATTLIST" => go .attributesOf
  | .subset, .opening "ELEMENT" => go .elementName
  | .subset, .opening "NOTATION" => go .notationName
  | .subset, .parameter =>
    .ok ⟨.subset, { progress.declared with
      incomplete := true, counting := progress.declared.standalone }⟩
  | .subset, .closeBracket => go .doctypeEnd
  | .doctypeEnd, .closing => go .behind
  | .entityName, .percent => go .parameterName
  | .entityName, .word .name name =>
    go (.entityValue (if (predefined? name).isSome then .known else .general name))
  | .parameterName, .word .name _ => go (.entityValue .parameter)
  | .entityValue target, .literal content =>
    if progress.declared.counting then
      (readEntityText (content.length + 1) [] content).map fun text =>
        progress.entity target (.internal text) .close
    else go .close
  | .entityValue target, .word .name "SYSTEM" => go (.entitySystem target)
  | .entityValue target, .word .name "PUBLIC" => go (.entityPublic target)
  | .entityPublic target, .literal content =>
    publicId content (progress.moveTo (.entitySystem target))
  | .entitySystem target, .literal _ =>
    go (if target = .parameter then .parameterTail else .entityTail target)
  | .entityTail target, .closing => .ok (progress.entity target .external .subset)
  | .entityTail target, .word .name "NDATA" => go (.entityNotation target)
  | .entityNotation target, .word .name _ => .ok (progress.entity target .binary .close)
  | .parameterTail, .closing => go .subset
  | .notationName, .word .name _ => go .notationSource
  | .notationSource, .word .name "SYSTEM" => go .notationSystem
  | .notationSource, .word .name "PUBLIC" => go .notationPublic
  | .notationPublic, .literal content => publicId content (progress.moveTo .notationTail)
  | .notationSystem, .literal _ => go .close
  | .notationTail, .literal _ => go .close
  | .notationTail, .closing => go .subset
  | .attributesOf, .word .name element => go (.attributeName element)
  | .attributesOf, .word .prefixed element => go (.attributeName element)
  | .attributeName _, .closing => go .subset
  | .attributeName element, .word kind name =>
    if kind = .other then refuse else go (.attributeType ⟨element, name, false, false⟩)
  | .attributeType draft, .word .name word =>
    if typeWords.contains word then
      go (.attributeDefault { draft with verbatim := word = "CDATA", isId := word = "ID" })
    else if word = "NOTATION" then go (.notationOpen draft)
    else refuse
  | .attributeType draft, .openParen => go (.choiceValue draft)
  | .choiceValue draft, .word _ _ => go (.choiceNext draft)
  | .choiceNext draft, .closeParen none => go (.attributeDefault draft)
  | .choiceNext draft, .bar => go (.choiceValue draft)
  | .notationOpen draft, .openParen => go (.notationValue draft)
  | .notationValue draft, .word .name _ => go (.notationNext draft)
  | .notationNext draft, .closeParen none => go (.attributeDefault draft)
  | .notationNext draft, .bar => go (.notationValue draft)
  | .attributeDefault draft, .hashed word =>
    if word = "IMPLIED" || word = "REQUIRED" then .ok (progress.rule draft none)
    else if word = "FIXED" then go (.attributeFixed draft)
    else refuse
  | .attributeDefault draft, .literal content => defaultValue progress draft content
  | .attributeFixed draft, .literal content => defaultValue progress draft content
  | .elementName, .word .name _ => go .elementContent
  | .elementName, .word .prefixed _ => go .elementContent
  | .elementContent, .word .name "EMPTY" => go .close
  | .elementContent, .word .name "ANY" => go .close
  | .elementContent, .openParen => go .groupStart
  | .groupStart, .hashed "PCDATA" => go .mixedNext
  | .groupStart, .openParen => go (.member [.undecided, .undecided])
  | .groupStart, .word kind _ => if kind = .other then refuse else go (.memberNext [.undecided])
  | .groupStart, .repeated _ => go (.memberNext [.undecided])
  | .mixedNext, .closeParen times =>
    if times = none || times = some .any then go .close else refuse
  | .mixedNext, .bar => go .mixedName
  | .mixedName, .word kind _ => if kind = .other then refuse else go .mixedMore
  | .mixedMore, .closeParen (some .any) => go .close
  | .mixedMore, .bar => go .mixedName
  | .member joints, .openParen => go (.member (.undecided :: joints))
  | .member joints, .word kind _ => if kind = .other then refuse else go (.memberNext joints)
  | .member joints, .repeated _ => go (.memberNext joints)
  | .memberNext joints, .closeParen _ => go (endGroup joints)
  | .memberNext joints, .comma => join .sequence .choice joints progress
  | .memberNext joints, .bar => join .choice .sequence joints progress
  | .close, .closing => go .subset
  | _, _ => refuse

/-- Whether comments and instructions may stand at a place. -/
def Place.isOpen : Place → Bool
  | .start | .front | .subset | .behind => true
  | _ => false

/-- The place after a separator, a comment or an instruction. -/
def Place.after : Place → Place
  | .start => .front
  | place => place

/-- Takes the next token. -/
def Place.step (progress : Progress) (token : Token) : Except Fault Progress :=
  match token with
  | .space => .ok (progress.moveTo progress.place.after)
  | .comment =>
    if progress.place.isOpen then .ok (progress.moveTo progress.place.after)
    else .error .misplacedToken
  | .instruction content =>
    if content.isDeclaration then
      if progress.place = .start then
        (readDeclaration content.content).map fun standalone =>
          ⟨.front, { progress.declared with standalone }⟩
      else .error .misplacedDeclaration
    else if progress.place.isOpen then .ok (progress.moveTo progress.place.after)
    else .error .misplacedToken
  | token => Place.take progress token

end CommandHost.Xml.Doctype
