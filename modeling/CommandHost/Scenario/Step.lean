import CommandHost.Command.Settings
import CommandHost.Event.Listener

/-!
# Steps of a scenario

A scenario is a host program given as data: a list of steps, each of which calls
the program once. The listeners that a scenario registers are scripts, which may
hold steps themselves. Values in steps may refer to objects by the handles under
which the scenario keeps them.
-/

namespace CommandHost.Scenario

/-- The classes of objects that scenarios have. -/
inductive SampleClass where
  | base
  | box
  | ticker
  | asyncTicker
  | badTicker
  | killer
  | spinner
  | card
  | fragile
  | greeter
  deriving DecidableEq, Repr, Inhabited

/-- The kinds of modules that scenarios have. -/
inductive SampleModule where
  | plain
  | sample
  | derived
  deriving DecidableEq, Repr, Inhabited

/-- What an operation does that a scenario registers: it gives a value, fails, or gives
the command back. -/
inductive OperationScript where
  | give (value : Value)
  | fail
  | giveCommand
  deriving Inhabited

/-- Where the context of a new module comes from: it is that of the program, a fresh
one, or a new one that shares all but the configuration. -/
inductive ContextChoice where
  | main
  | fresh
  | shared
  deriving DecidableEq, Repr, Inhabited

mutual

/-- What a listener of a scenario does with a payload, which it notes down first: no
more, or it fails, or it performs steps on its first calls up to a limit. -/
inductive Script where
  | record (name : String)
  | fail (name : String)
  | perform (name : String) (steps : List Step) (limit : Int)

/-- One step of a scenario. -/
inductive Step where
  -- the event bus
  | on (event : String) (script : Script) (options : ListenerOptions)
  | once (event : String) (script : Script) (owner : Value)
  | fire (event : String) (payload : Value)
  | off (id : String)
  | offOwner (owner : Value)
  | clearBus
  | hasListeners (event : String)
  | countListeners (event : Option String)
  -- the store
  | store (key value : Value)
  | load (key default : Value)
  | pick (key default : Value)
  | has (key : Value)
  | delete (key : Value)
  | contains (key : Value)
  | setVariable (key value : Value)
  | clean
  -- the context
  | setReader (setting : ReaderSetting) (value : Value)
  | mapElement (tag objectType : String)
  | mapAttribute (name key : String)
  | listVerbs (handle : Option String)
  | extendVerbs (verbs : List String)
  | registerVerbs (verbs : List String)
  | invokeVerb (verb : String) (command : Value) (handle : String)
  -- the program
  | makeModule (name : String) (kind : SampleModule) (register : Bool) (context : ContextChoice)
      (config : Value)
  | findModule (name : String)
  | run (text : Option String)
  | execute (command : Value)
  | frame (number : Option Int)
  -- objects by handle
  | build (handle : String) (kind : SampleClass) (data : Value) (withBus : Bool)
  | keep (handle moduleName id : String)
  | inspect (handle : String)
  | dispose (handle : String)
  | append (handle child : String)
  | listenAs (handle event : String) (script : Script) (once : Bool)
  | executeOn (handle : String) (command : Value)
  -- modules by name
  | runIn (moduleName : String) (text : Option String) (rich : Bool)
  | executeIn (moduleName : String) (command : Value)
  | frameIn (moduleName : String) (number : Int)
  | create (moduleName : String) (data : Value) (handle : Option String)
  | createMarkup (moduleName : String) (text : Option String)
  | remove (moduleName id : String)
  | importClass (moduleName objectType : String) (kind : SampleClass)
  | importPack (moduleName : String) (pack : List (String × SampleClass))
  | registerOperation (moduleName name : String) (script : OperationScript)
  | listOperations (moduleName : String) (names : List String)
  | help (moduleName : String) (topic : Option String)
  | hasClass (moduleName objectType : String)
  | addObject (moduleName handle : String)
  | removeObject (moduleName id : String)
  | lookup (moduleName id : String)

end

instance : Inhabited Script := ⟨.record ""⟩

instance : Inhabited Step := ⟨.clearBus⟩

/-- The name of a listener's script. -/
def Script.name : Script → String
  | .record name | .fail name | .perform name _ _ => name

/-- The word for a step. -/
def Step.word : Step → String
  | on .. => "on"
  | once .. => "once"
  | fire .. => "fire"
  | off .. => "off"
  | offOwner .. => "off_owner"
  | clearBus => "bus_clear"
  | hasListeners .. => "has_listeners"
  | countListeners .. => "listener_count"
  | store .. => "set"
  | load .. => "get"
  | pick .. => "pick"
  | has .. => "has"
  | delete .. => "delete"
  | contains .. => "contains"
  | setVariable .. => "var"
  | clean => "clean"
  | setReader .. => "parser_set"
  | mapElement .. => "map_element"
  | mapAttribute .. => "map_attribute"
  | listVerbs .. => "nano_verbs"
  | extendVerbs .. => "nano_extend"
  | registerVerbs .. => "nano_register"
  | invokeVerb .. => "nano_invoke"
  | makeModule .. => "module"
  | findModule .. => "get_module"
  | run .. => "run"
  | execute .. => "exec"
  | frame .. => "frame"
  | build .. => "new"
  | keep .. => "keep"
  | inspect .. => "inspect"
  | dispose .. => "dispose"
  | append .. => "append"
  | listenAs .. => "obj_on"
  | executeOn .. => "obj_exec"
  | runIn .. => "mrun"
  | executeIn .. => "mexec"
  | frameIn .. => "mframe"
  | create .. => "create"
  | createMarkup .. => "create_markup"
  | remove .. => "remove"
  | importClass .. => "import"
  | importPack .. => "import_pack"
  | registerOperation .. => "regop"
  | listOperations .. => "ops"
  | help .. => "help"
  | hasClass .. => "has_class"
  | addObject .. => "add"
  | removeObject .. => "om_remove"
  | lookup .. => "lookup"

mutual

/-- How often the scripts that a script holds, itself included, can perform steps. -/
def Script.runs : Script → Nat
  | .record _ | .fail _ => 0
  | .perform _ steps limit => limit.toNat + runsOfAll steps

/-- How often the scripts that a step holds can perform steps. -/
def Step.runs : Step → Nat
  | .on _ script _ | .once _ script _ | .listenAs _ _ script _ => script.runs
  | _ => 0

/-- How often the scripts that steps hold can perform steps. -/
def runsOfAll : List Step → Nat
  | [] => 0
  | step :: rest => step.runs + runsOfAll rest

end

end CommandHost.Scenario
