import CommandHost.Module.Declaration
import CommandHost.Scenario.Step
import CommandHost.World.Basic

/-!
# The samples of scenarios

The classes, modules and behaviours that scenarios can use, and what a scenario
notes down and remembers.
-/

namespace CommandHost.Scenario

/-- What listeners do: they follow a script, or they belong to a greeter. -/
inductive SampleCallback where
  | script (content : Script)
  | greeter (objectId : String)

/-- What operations do. -/
inductive SampleHandler where
  | createBox
  | echo
  | echoDerived
  | spacedInfo
  | infoDerived
  | script (content : OperationScript)

/-- What verbs do: the verbs of a spinner, and a verb that tells its own name. -/
inductive SampleVerb where
  | spin
  | whirl
  | quiet
  | told (verb : String)

/-- What objects do at a frame: they note it down, they fail, or they remove another
object. -/
inductive SampleTicker where
  | notes
  | fails
  | removes

/-- What objects do when they have been created: they fail, or they listen to
greetings. -/
inductive SampleHook where
  | fails
  | listens

/-- What is noted down while a scenario runs. -/
inductive Note where
  /-- A listener got a payload. -/
  | called (listener : String) (payload : Value)
  /-- An object heard of a frame. -/
  | ticked (objectId : String) (frame : Int)
  /-- An object with these children was created. -/
  | created (objectId : String) (children : List String)
  /-- A step of a script was performed. -/
  | performed (word : String) (result : Reply)

/-- What a scenario remembers: objects by handle, where a handle may hold none, the
modules it has made, and how often each script was called. -/
structure Memory where
  handles : Table (Option Nat)
  modules : Table Nat
  calls : Table Nat

/-- The memory at the start. -/
def Memory.empty : Memory := ⟨[], [], []⟩

/-- What scenarios bring along. -/
abbrev vocabulary : Vocabulary where
  Callback := SampleCallback
  Handler := SampleHandler
  Verb := SampleVerb
  Ticker := SampleTicker
  Hook := SampleHook
  Note := Note
  Memory := Memory

/-! ## Classes -/

/-- The defaults of a box. -/
def boxDefaults : Entries := .ofTexts [("color", .text "white"), ("size", .int 1)]

/-- The defaults of a card: a name and two boxes. -/
def cardDefaults : Entries :=
  let keys := DescriptorKeys.standard
  .ofTexts
    [(keys.name, .text "card"),
      (keys.children, .list
        [.map (Entries.ofTexts [(keys.type, .text "box")]),
          .map (Entries.ofTexts [(keys.type, .text "box"), ("color", .text "black")])])]

/-- The verbs of a spinner. -/
def spinnerVerbs : Verbs SampleVerb :=
  [("spin", .custom .spin), ("whirl", .custom .whirl), ("log", .custom .quiet)]

/-- The class of a sample. -/
def SampleClass.toClass : SampleClass → ObjectClass vocabulary
  | base => .plain vocabulary
  | box => ⟨"Box", boxDefaults, [], none, none⟩
  | ticker => ⟨"Ticker", boxDefaults, [], some .notes, none⟩
  | asyncTicker => ⟨"AsyncTicker", [], [], some .notes, none⟩
  | badTicker => ⟨"BadTicker", [], [], some .fails, none⟩
  | killer => ⟨"Killer", [], [], some .removes, none⟩
  | spinner => ⟨"Spinner", [], spinnerVerbs, none, none⟩
  | card => ⟨"Card", cardDefaults, [], none, none⟩
  | fragile => ⟨"Fragile", [], [], none, some .fails⟩
  | greeter => ⟨"Greeter", [], [], none, some .listens⟩

/-- The type under which sample modules know a class. -/
def SampleClass.typeName : SampleClass → String
  | base => "base"
  | box => "box"
  | ticker => "ticker"
  | asyncTicker => "aticker"
  | badTicker => "badticker"
  | killer => "killer"
  | spinner => "spinner"
  | card => "card"
  | fragile => "fragile"
  | greeter => "greeter"

/-- All sample classes. -/
def SampleClass.all : List SampleClass :=
  [base, box, ticker, asyncTicker, badTicker, killer, spinner, card, fragile, greeter]

/-- The sample class of a type. -/
def SampleClass.ofTypeName? (name : String) : Option SampleClass :=
  all.find? fun kind => kind.typeName == name

/-! ## Modules -/

/-- The types that sample modules know. -/
def sampleTypes : Table (ObjectClass vocabulary) :=
  SampleClass.all.map fun kind => (kind.typeName, kind.toClass)

/-- The methods of sample modules. -/
def sampleBody : ClassBody vocabulary :=
  [("create_box", ⟨some "create-box", .custom .createBox⟩), ("echo", ⟨some "", .custom .echo⟩)]

/-- The methods of derived modules: one takes the place of another method, one is exposed as
an operation that there was, and one is new. -/
def derivedBody : ClassBody vocabulary :=
  [("echo", ⟨none, .custom .echoDerived⟩), ("spaced_info", ⟨some " in fo ", .custom .spacedInfo⟩),
    ("own_info", ⟨some "info", .custom .infoDerived⟩)]

/-- The kind of modules of a sample. -/
def SampleModule.toClass : SampleModule → ModuleClass vocabulary
  | plain => ⟨[], .builtin, none⟩
  | sample => ⟨sampleTypes, .declared [.basic, sampleBody], none⟩
  | derived =>
    ⟨sampleTypes, .declared [.basic, sampleBody, derivedBody],
      some fun topic => .ofTexts [("topic", .optionalText topic)]⟩

end CommandHost.Scenario
