/-!
# The tokens of a YAML text

The brackets of blocks are tokens of their own: they begin where the
indentation grows and end where it shrinks.
-/

namespace CommandHost.Yaml

/-- A tag as it is written: a handle, if there is one, and a rest. -/
structure TagText where
  handle : Option String
  tail : String
  deriving DecidableEq, Repr

/-- The directives in front of a document. -/
inductive Directive where
  | version (major minor : Nat)
  | tag (handle start : String)
  | other
  deriving DecidableEq, Repr

/-- The tokens. -/
inductive Token where
  | directive (content : Directive)
  | documentStart
  | documentEnd
  | streamEnd
  | blockSequenceStart
  | blockMappingStart
  | blockEnd
  | flowSequenceStart
  | flowSequenceEnd
  | flowMappingStart
  | flowMappingEnd
  | blockEntry
  | flowEntry
  | key
  | value
  | alias (name : String)
  | anchor (name : String)
  | tag (content : TagText)
  | scalar (content : String) (plain : Bool)
  deriving DecidableEq, Repr

end CommandHost.Yaml
