/-!
# Why markup is refused

The causes, with the text of each.
-/

namespace CommandHost.Xml

/-- The causes for which markup is refused. -/
inductive Fault where
  | misplacedToken
  | noElement
  | invalidToken
  | unclosedToken
  | mismatchedTag
  | duplicateAttribute
  | junkAfterElement
  | parameterReference
  /-- An entity that is not declared. Where a declaration may have been left out, the
  reference is shown. -/
  | undefinedEntity (shown : Option String)
  | recursiveEntity
  | asynchronousEntity
  | badCharacterNumber
  | binaryEntity
  | externalInAttribute
  | misplacedDeclaration
  | unclosedSection
  | badPublicId
  | badDeclaration
  | unboundPrefix
  | undeclaredPrefix
  | reservedXml
  | reservedXmlns
  | reservedNamespace
  /-- Entities that would expand to far more than was written. -/
  | amplification
  deriving DecidableEq, Repr

/-- The text of a cause. -/
def Fault.message : Fault → String
  | misplacedToken => "syntax error"
  | noElement => "no element found"
  | invalidToken => "not well-formed (invalid token)"
  | unclosedToken => "unclosed token"
  | mismatchedTag => "mismatched tag"
  | duplicateAttribute => "duplicate attribute"
  | junkAfterElement => "junk after document element"
  | parameterReference => "illegal parameter entity reference"
  | undefinedEntity none => "undefined entity"
  | undefinedEntity (some shown) => "undefined entity " ++ shown
  | recursiveEntity => "recursive entity reference"
  | asynchronousEntity => "asynchronous entity"
  | badCharacterNumber => "reference to invalid character number"
  | binaryEntity => "reference to binary entity"
  | externalInAttribute => "reference to external entity in attribute"
  | misplacedDeclaration => "XML or text declaration not at start of entity"
  | unclosedSection => "unclosed CDATA section"
  | badPublicId => "illegal character(s) in public id"
  | badDeclaration => "XML declaration not well-formed"
  | unboundPrefix => "unbound prefix"
  | undeclaredPrefix => "must not undeclare prefix"
  | reservedXml =>
    "reserved prefix (xml) must not be undeclared or bound to another namespace name"
  | reservedXmlns => "reserved prefix (xmlns) must not be declared or undeclared"
  | reservedNamespace => "prefix must not be bound to one of the reserved namespace names"
  | amplification =>
    "limit on input amplification factor (from DTD and entities) breached"

end CommandHost.Xml
