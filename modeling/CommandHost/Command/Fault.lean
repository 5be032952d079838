import CommandHost.Error.Report

/-!
# Why a command text cannot be read

The four causes, each with the text that was given, and the report they make.
-/

namespace CommandHost

/-- The causes for which a command text is refused. -/
inductive ParseFault where
  /-- No module was given and the text has no word. -/
  | missingModule (text : Option String)
  /-- Nothing stands where the operation belongs. -/
  | missingOperation (text : Option String) (moduleName : String)
  /-- A selector without an object id. -/
  | bareSelector (text : Option String) (moduleName selector : String)
  /-- A quoted value that has no end. -/
  | unclosedValue (text : Option String) (moduleName value : String)
  deriving DecidableEq, Repr

namespace ParseFault

/-- The message of a cause. -/
def message : ParseFault → String
  | missingModule _ => "Missing module name"
  | missingOperation _ moduleName => "Missing operation (module: " ++ moduleName ++ ")"
  | bareSelector _ _ selector =>
    "Invalid object selector '" ++ selector ++ "'. Use '" ++ selector ++ "<id>'"
  | unclosedValue _ moduleName _ =>
    "Unclosed quoted parameter value (module: " ++ moduleName ++ ")"

/-- The details of a cause. -/
def details : ParseFault → Entries
  | missingModule text => .ofTexts [("text", .optionalText text)]
  | missingOperation text moduleName | bareSelector text moduleName _ =>
    .ofTexts [("text", .optionalText text), ("module", .text moduleName)]
  | unclosedValue text moduleName value =>
    .ofTexts
      [("text", .optionalText text), ("module", .text moduleName), ("value", .text value)]

/-- The report of a cause. -/
def report (fault : ParseFault) : Report := .parsing fault.message fault.details

end ParseFault

end CommandHost
