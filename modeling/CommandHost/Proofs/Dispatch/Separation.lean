import CommandHost.Proofs.Event.Effects
import CommandHost.Scenario.Host

/-!
# What a dispatched command can start

Executing a command either refuses it, and then the world is as it was, or hands it to
one responder: an operation of a module or a verb of an object.  A command with an
object id can only reach a verb of that object, a command without one only an operation
of its module.  `World.route` is the choice that is made, and the main statement says
what it depends on.

What a responder does is said down to the code of the host: `World.Answers` names the one
handler or verb that is run, or what a built-in responder gives, and `World.Starts` adds that
no other code of the host has a part in it, except for listeners where an event is fired.
-/

namespace CommandHost

variable {V : Vocabulary}

/-- What a command can be handed to: an operation of the module of a place, or what an
object does on a verb. -/
inductive Responder (V : Vocabulary) where
  | operation (place : Nat) (content : Operation V)
  | verb (handle : Nat) (content : NanoCommand V.Verb)

/-- Hands a command to a responder. -/
def Responder.start (host : Host V) (command : Command) : Responder V → Effect V Reply
  | .operation place content => World.operate host place content command
  | .verb handle content => World.runNano host content command handle

/-- Two hosts have the same code for a responder: the same handler for an operation of a host,
the same verb for a verb of a host.  Built-in responders have none. -/
def Responder.SameCode (host other : Host V) (command : Command) : Responder V → Prop
  | .operation place (.custom handler) =>
    other.handler handler place command = host.handler handler place command
  | .verb handle (.custom content) =>
    other.verb content command handle = host.verb content command handle
  | .operation _ _ => True
  | .verb _ _ => True

/-- A command as it is given: a record, or a mapping that is read as one. -/
inductive Given where
  | command (content : Command)
  | mapping (entries : Entries)

namespace Given

/-- The command that is given. -/
def read : Given → Except IllegalUse Command
  | .command content => .ok content
  | .mapping entries => Command.ofWire entries

/-- Executes what is given. -/
def execute (host : Host V) : Given → Effect V Reply
  | .command content => World.execute host content
  | .mapping entries => World.executeValue host (.map entries)

end Given

namespace World

/-! ## What a responder does -/

/-- What a responder does with a command in a world.  An operation or a verb of the host is
its code and nothing else.  The built-in operations tell about the module, and the built-in
verbs tell the id of the object, write to the log, or fire an event. -/
inductive Answers (host : Host V) (command : Command) (world : World V) :
    Responder V → EStateM.Result Fault (World V) Reply → Prop where
  | handler (place : Nat) (handler : V.Handler) :
      Answers host command world (.operation place (.custom handler))
        ((host.handler handler place command).run world)
  | verb (handle : Nat) (verb : V.Verb) :
      Answers host command world (.verb handle (.custom verb))
        ((host.verb verb command handle).run world)
  | help (place : Nat) {topic : Option String} (asked : topicOf command = .ok topic) :
      Answers host command world (.operation place .help)
        (.ok (.value (.map ((world.moduleOf place).helpPage topic))) world)
  | helpless (place : Nat) {cause : IllegalUse} (asked : topicOf command = .error cause) :
      Answers host command world (.operation place .help) (.error (.illegal cause) world)
  | summary (place : Nat) :
      Answers host command world (.operation place .info)
        (.ok (.value (.map (world.moduleOf place).summary))
          (world.logged (.plain .info ("module info: " ++ (world.moduleOf place).name))))
  | id (handle : Nat) :
      Answers host command world (.verb handle .info)
        (.ok (.value (.text (world.object handle).id))
          (world.logged (.plain .info ("XObject id " ++ (world.object handle).id))))
  | log (handle : Nat) :
      Answers host command world (.verb handle .log) ((logParam command handle).run world)
  | fire (handle : Nat) :
      Answers host command world (.verb handle .fire) ((fireFrom host command handle).run world)

/-- An act hands a command to a responder and does nothing else: it does what the responder
does, and would do the same if all other handlers and verbs of the host were different. -/
structure Starts (world : World V) (host : Host V) (act : Host V → Effect V Reply)
    (command : Command) (responder : Responder V) : Prop where
  answers : world.Answers host command responder ((act host).run world)
  alone : ∀ other : Host V, other.callback = host.callback →
    responder.SameCode host other command → (act other).run world = (act host).run world

theorem deliver_congr {host other : Host V} (same : other.callback = host.callback)
    (event : String) (payload : Value) (listeners : List (Listener V.Callback)) :
    deliver other event payload listeners = deliver host event payload listeners := by
  induction listeners with
  | nil => rfl
  | cons listener rest inductionHypothesis => rw [deliver, deliver, same, inductionHypothesis]

/-- Who fires an event runs nothing of the host but listeners. -/
theorem fireFrom_congr {host other : Host V} (same : other.callback = host.callback)
    (command : Command) (handle : Nat) :
    fireFrom other command handle = fireFrom host command handle := by
  have fires (hub : Nat) (event : String) (payload : Value) :
      fire other hub event payload = fire host hub event payload := by
    simp only [fire, deliver_congr same]
  simp only [fireFrom, fires]

theorem answers_start (host : Host V) (world : World V) (command : Command)
    (responder : Responder V) :
    world.Answers host command responder ((responder.start host command).run world) := by
  cases responder with
  | operation place content =>
      cases content with
      | custom handler => exact .handler place handler
      | info => exact .summary place
      | help =>
          cases asked : topicOf command with
          | ok topic =>
              have ran : ((Responder.operation place .help).start host command).run world =
                  .ok (.value (.map ((world.moduleOf place).helpPage topic))) world := by
                simp only [Responder.start, operate, asked]
                rfl
              rw [ran]
              exact .help place asked
          | error cause =>
              have ran : ((Responder.operation place .help).start host command).run world =
                  .error (.illegal cause) world := by
                simp only [Responder.start, operate, asked]
                rfl
              rw [ran]
              exact .helpless place asked
  | verb handle content =>
      cases content with
      | custom verb => exact .verb handle verb
      | info => exact .id handle
      | log => exact .log handle
      | fire => exact .fire handle

theorem start_congr {host other : Host V} (callbacks : other.callback = host.callback)
    {command : Command} {responder : Responder V}
    (same : responder.SameCode host other command) :
    responder.start other command = responder.start host command := by
  cases responder with
  | operation place content =>
      cases content with
      | custom handler => exact same
      | help | info => rfl
  | verb handle content =>
      cases content with
      | custom verb => exact same
      | info | log => rfl
      | fire => exact fireFrom_congr callbacks command handle

/-- An act that runs like a responder hands the command to it. -/
theorem starts_of_run {host : Host V} {world : World V} {act : Host V → Effect V Reply}
    {command : Command} {responder : Responder V}
    (runs : ∀ host, (act host).run world = (responder.start host command).run world) :
    world.Starts host act command responder where
  answers := by
    rw [runs]
    exact answers_start host world command responder
  alone other callbacks same := by rw [runs, runs, start_congr callbacks same]

/-! ## The choice -/

/-- The object id of a command. The empty text is none. -/
def properId : Option String → Option String
  | none => none
  | some id => if id = "" then none else some id

theorem properId_some {id : String} (proper : id ≠ "") : properId (some id) = some id :=
  if_neg proper

theorem properId_eq_none_iff {target : Option String} :
    properId target = none ↔ target = none ∨ target = some "" := by
  cases target with
  | none => simp [properId]
  | some id => simp [properId]

theorem properId_eq_some_iff {target : Option String} {id : String} :
    properId target = some id ↔ target = some id ∧ id ≠ "" := by
  cases target with
  | none => simp [properId]
  | some other =>
      by_cases empty : other = ""
      · subst empty
        simp [properId]
      · rw [properId_some empty]
        simp only [Option.some.injEq, iff_self_and]
        rintro rfl
        exact empty

/-- Where a command for the module of a place leads. -/
def routeIn (world : World V) (place : Nat) (moduleName op : String)
    (target : Option String) : Except Fault (Responder V) :=
  let found := world.moduleOf place
  if op = "" then .error (.missingOperation found.name)
  else
    match properId target with
    | some id =>
      match found.registry.get? id with
      | none => .error (.unknownObject found.name (.text id))
      | some handle =>
        match (world.object handle).verbs.get? op with
        | none => .error (.unknownVerb (world.object handle).id op moduleName)
        | some content => .ok (.verb handle content)
    | none =>
      match found.operations.find? op with
      | none => .error (.unknownOperation found.name op)
      | some content => .ok (.operation place content)

/-- Where a command leads. -/
def route (world : World V) (moduleName op : String) (target : Option String) :
    Except Fault (Responder V) :=
  match world.registered.get? moduleName with
  | none => .error (.unknownModule moduleName)
  | some place => world.routeIn place moduleName op target

/-- What becomes of a command that leads somewhere: it is refused on the spot, or its
responder gets it in the world as it is. -/
def follow (world : World V) (host : Host V) (command : Command) :
    Except Fault (Responder V) → EStateM.Result Fault (World V) Reply
  | .error fault => .error fault world
  | .ok responder => (responder.start host command).run world

/-- An object id that is a text counts as true unless it is empty. -/
theorem filter_truthy_text (target : Option String) :
    (target.map Value.text).filter Value.truthy = (properId target).map Value.text := by
  cases target with
  | none => rfl
  | some id =>
      by_cases empty : id = ""
      · subst empty
        rfl
      · have counts : (Value.text id).truthy = true := by simpa [Value.truthy] using empty
        rw [properId_some empty, Option.map_some, Option.filter_some, if_pos counts]

theorem executeOn_run (host : Host V) (world : World V) (handle : Nat) (command : Command) :
    (executeOn host handle command).run world =
      world.follow host command
        (match (world.object handle).verbs.get? command.op with
        | none =>
          .error (.unknownVerb (world.object handle).id command.op command.moduleName)
        | some content => .ok (.verb handle content)) := by
  rw [executeOn, run_bind_ok (EStateM.run_get world)]
  cases understood : (world.object handle).verbs.get? command.op with
  | none =>
      simp only [understood]
      rfl
  | some content =>
      simp only [understood]
      rfl

theorem executeIn_run (host : Host V) (world : World V) (place : Nat) {command : Command}
    {target : Option String} (addressed : command.target = target.map Value.text) :
    (executeIn host place command).run world =
      world.follow host command
        (world.routeIn place command.moduleName command.op target) := by
  rw [executeIn, run_bind_ok (EStateM.run_get world), routeIn]
  by_cases unnamed : command.op = ""
  · simp only [unnamed, if_true]
    rfl
  · simp only [unnamed, if_false, addressed, filter_truthy_text]
    cases properId target with
    | none =>
        cases (world.moduleOf place).operations.find? command.op with
        | none => rfl
        | some content => rfl
    | some id =>
        simp only [Option.map_some, targetOf]
        cases (world.moduleOf place).registry.get? id with
        | none => rfl
        | some handle => exact executeOn_run host world handle command

/-- Executing a command with a textual object id, or with none, is following its
route. -/
theorem execute_run (host : Host V) (world : World V) {command : Command}
    {target : Option String} (addressed : command.target = target.map Value.text) :
    (execute host command).run world =
      world.follow host command (world.route command.moduleName command.op target) := by
  rw [execute, run_bind_ok (EStateM.run_get world), route]
  cases world.registered.get? command.moduleName with
  | none => rfl
  | some place => exact executeIn_run host world place addressed

/-! ## What the choice depends on -/

/-- Why a command is refused: the class of the error, and the cause with the module and
the operation, verb or object id that it carries. -/
inductive Refuses (world : World V) (moduleName op : String) (target : Option String) :
    ErrorClass → Fault → Prop where
  | unknownModule (missing : world.registered.get? moduleName = none) :
      Refuses world moduleName op target .unknownModule (.unknownModule moduleName)
  | missingOperation {place : Nat} (found : world.registered.get? moduleName = some place)
      (unnamed : op = "") :
      Refuses world moduleName op target .invalidCommand
        (.missingOperation (world.moduleOf place).name)
  | unknownObject {place : Nat} {id : String}
      (found : world.registered.get? moduleName = some place) (named : op ≠ "")
      (addressed : target = some id) (proper : id ≠ "")
      (missing : (world.moduleOf place).registry.get? id = none) :
      Refuses world moduleName op target .objectNotFound
        (.unknownObject (world.moduleOf place).name (.text id))
  | unknownVerb {place handle : Nat} {id : String}
      (found : world.registered.get? moduleName = some place) (named : op ≠ "")
      (addressed : target = some id) (proper : id ≠ "")
      (holds : (world.moduleOf place).registry.get? id = some handle)
      (missing : (world.object handle).verbs.get? op = none) :
      Refuses world moduleName op target .unknownNanoCommand
        (.unknownVerb (world.object handle).id op moduleName)
  | unknownOperation {place : Nat}
      (found : world.registered.get? moduleName = some place) (named : op ≠ "")
      (unaddressed : target = none ∨ target = some "")
      (missing : (world.moduleOf place).operations.get? (normalOpName op) = none) :
      Refuses world moduleName op target .operationNotFound
        (.unknownOperation (world.moduleOf place).name op)

/-- What a command with an object id is handed to: what the object that is registered
under the id does on exactly the verb of the command. -/
def VerbFor (world : World V) (moduleName op id : String) (responder : Responder V) : Prop :=
  ∃ place handle content,
    world.registered.get? moduleName = some place ∧ op ≠ "" ∧
      (world.moduleOf place).registry.get? id = some handle ∧
        (world.object handle).verbs.get? op = some content ∧
          responder = .verb handle content

/-- What a command without an object id is handed to: the operation of the module under
the normal name of the operation of the command. -/
def OperationFor (world : World V) (moduleName op : String) (responder : Responder V) :
    Prop :=
  ∃ place content,
    world.registered.get? moduleName = some place ∧ op ≠ "" ∧
      (world.moduleOf place).operations.get? (normalOpName op) = some content ∧
        responder = .operation place content

variable {world : World V} {moduleName op : String} {target : Option String}
variable {kind : ErrorClass} {fault : Fault}

theorem route_of_addressed {id : String} (proper : id ≠ "") (responder : Responder V) :
    world.route moduleName op (some id) = .ok responder ↔
      world.VerbFor moduleName op id responder := by
  unfold route routeIn VerbFor
  cases found : world.registered.get? moduleName with
  | none => simp
  | some place =>
      by_cases unnamed : op = ""
      · simp [unnamed]
      · cases holds : (world.moduleOf place).registry.get? id with
        | none => simp [unnamed, properId_some proper, holds]
        | some handle =>
            cases understood : (world.object handle).verbs.get? op with
            | none => simp [unnamed, properId_some proper, holds, understood]
            | some content =>
                simp [unnamed, properId_some proper, holds, understood, eq_comm]

theorem route_of_unaddressed (unaddressed : target = none ∨ target = some "")
    (responder : Responder V) :
    world.route moduleName op target = .ok responder ↔
      world.OperationFor moduleName op responder := by
  unfold route routeIn OperationFor
  rw [properId_eq_none_iff.mpr unaddressed]
  cases found : world.registered.get? moduleName with
  | none => simp
  | some place =>
      by_cases unnamed : op = ""
      · simp [unnamed]
      · cases known : (world.moduleOf place).operations.get? (normalOpName op) with
        | none => simp [unnamed, Operations.find?, known]
        | some content => simp [unnamed, Operations.find?, known, eq_comm]

theorem Refuses.kind_eq (refuses : world.Refuses moduleName op target kind fault) :
    fault.report?.map Report.kind = some kind := by
  cases refuses <;> rfl

theorem Refuses.route_eq (refuses : world.Refuses moduleName op target kind fault) :
    world.route moduleName op target = .error fault := by
  cases refuses with
  | unknownModule missing => simp [route, missing]
  | missingOperation found unnamed => simp [route, routeIn, found, unnamed]
  | unknownObject found named addressed proper missing =>
      have hasId := properId_eq_some_iff.mpr ⟨addressed, proper⟩
      simp [route, routeIn, found, named, hasId, missing]
  | unknownVerb found named addressed proper holds missing =>
      have hasId := properId_eq_some_iff.mpr ⟨addressed, proper⟩
      simp [route, routeIn, found, named, hasId, holds, missing]
  | unknownOperation found named unaddressed missing =>
      have noId := properId_eq_none_iff.mpr unaddressed
      simp [route, routeIn, found, named, noId, Operations.find?, missing]

theorem route_refuses (refused : world.route moduleName op target = .error fault) :
    ∃ kind, world.Refuses moduleName op target kind fault := by
  unfold route at refused
  cases found : world.registered.get? moduleName with
  | none =>
      rw [found] at refused
      cases refused
      exact ⟨_, .unknownModule found⟩
  | some place =>
      simp only [found, routeIn] at refused
      by_cases unnamed : op = ""
      · simp only [unnamed, if_true] at refused
        cases refused
        exact ⟨_, .missingOperation found unnamed⟩
      · simp only [unnamed, if_false] at refused
        cases addressed : properId target with
        | none =>
            have unaddressed := properId_eq_none_iff.mp addressed
            simp only [addressed] at refused
            cases known : (world.moduleOf place).operations.find? op with
            | none =>
                rw [known] at refused
                cases refused
                exact ⟨_, .unknownOperation found unnamed unaddressed known⟩
            | some content =>
                rw [known] at refused
                cases refused
        | some id =>
            obtain ⟨isTarget, proper⟩ := properId_eq_some_iff.mp addressed
            simp only [addressed] at refused
            cases holds : (world.moduleOf place).registry.get? id with
            | none =>
                rw [holds] at refused
                cases refused
                exact ⟨_, .unknownObject found unnamed isTarget proper holds⟩
            | some handle =>
                simp only [holds] at refused
                cases understood : (world.object handle).verbs.get? op with
                | none =>
                    rw [understood] at refused
                    cases refused
                    exact ⟨_, .unknownVerb found unnamed isTarget proper holds understood⟩
                | some content =>
                    rw [understood] at refused
                    cases refused

/-! ## Dispatch -/

/-- What dispatching a command does, given the one choice that is made. -/
structure Dispatches (world : World V) (host : Host V) (act : Host V → Effect V Reply)
    (command : Command) (target : Option String)
    (choice : Except Fault (Responder V)) : Prop where
  /-- If a responder is chosen, the command is handed to it, and no code of the host is started
  but that of the responder. -/
  starts : ∀ responder, choice = .ok responder → world.Starts host act command responder
  /-- Otherwise nothing is started, and the world stays as it is. -/
  refuses : ∀ fault, choice = .error fault → (act host).run world = .error fault world
  /-- With an object id only a verb of that object is started. -/
  verb_only : ∀ id, target = some id → id ≠ "" → ∀ responder,
    choice = .ok responder ↔ world.VerbFor command.moduleName command.op id responder
  /-- Without an object id only an operation of the module is started. -/
  operation_only : target = none ∨ target = some "" → ∀ responder,
    choice = .ok responder ↔ world.OperationFor command.moduleName command.op responder
  /-- The refusals, each exactly when the look-up it tells of fails. -/
  refused_iff : ∀ fault,
    choice = .error fault ↔
      ∃ kind, world.Refuses command.moduleName command.op target kind fault
  /-- The class of error that a refusal is. -/
  refused_kind : ∀ kind fault,
    world.Refuses command.moduleName command.op target kind fault →
      fault.report?.map Report.kind = some kind

theorem dispatches_of_run {host : Host V} {world : World V} {act : Host V → Effect V Reply}
    {command : Command} {target : Option String}
    (runs : ∀ host, (act host).run world =
      world.follow host command (world.route command.moduleName command.op target)) :
    world.Dispatches host act command target
      (world.route command.moduleName command.op target) where
  starts responder chosen := starts_of_run fun host => by
    rw [runs, chosen]
    rfl
  refuses fault refused := by
    rw [runs, refused]
    rfl
  verb_only := by
    rintro id rfl proper responder
    exact route_of_addressed proper responder
  operation_only unaddressed responder := route_of_unaddressed unaddressed responder
  refused_iff _ := ⟨route_refuses, fun ⟨_, refuses⟩ => refuses.route_eq⟩
  refused_kind _ _ := Refuses.kind_eq

end World

/-- A mapping is read first, and then executed as the command that it is. -/
theorem Given.execute_run (host : Host V) (world : World V) {given : Given}
    {command : Command} (read : given.read = .ok command) :
    (given.execute host).run world = (World.execute host command).run world := by
  cases given with
  | command content =>
      cases read
      rfl
  | mapping entries =>
      have read : Command.ofWire entries = .ok command := read
      simp only [execute, World.executeValue, World.commandOf, read]
      rfl

/-- A command whose object id, if it has one, is a text is handed to at most one
responder, of the kind that its object id asks for, or is refused in a world that stays
as it is.  A mapping is handed over like the command that is read from it. -/
theorem Given.dispatches (host : Host V) (world : World V) (given : Given)
    {command : Command} {target : Option String} (read : given.read = .ok command)
    (addressed : command.target = target.map Value.text) :
    ∃ choice, world.Dispatches host (fun host => given.execute host) command target choice :=
  ⟨_, World.dispatches_of_run fun host =>
    (execute_run host world read).trans (World.execute_run host world addressed)⟩

/-- A world with a sample module and one object in it. -/
def inhabited : World Scenario.vocabulary :=
  World.after
    (do
      let place ← World.makeModule Scenario.SampleModule.sample.toClass "m" 0
      World.registerModule place
      World.create (Scenario.hostOf []) place
        (.map (Entries.ofTexts [("_id", .text "a"), ("_type", .text "spinner")])))
    (Scenario.startWorld .standard false)

/-- A mapping for the object that names an operation of its module. -/
def misdirected : Given :=
  .mapping (Entries.ofTexts
    [("_module", .text "m"), ("_object", .text "a"), ("_op", .text "create-box")])

/-- The operation is there, but the object does not understand it as a verb. -/
theorem Given.dispatches_misdirected :
    (inhabited.moduleOf 0).operations.has (normalOpName "create-box") = true ∧
      ∃ command choice,
        misdirected.read = .ok command ∧
          command.target = (some "a").map Value.text ∧
            inhabited.Dispatches (Scenario.hostOf [])
              (fun host => misdirected.execute host) command (some "a") choice ∧
              choice = .error (.unknownVerb "a" "create-box" "m") := by
  have read :
      misdirected.read = .ok ⟨"m", "create-box", [], some (.text "a")⟩ := by
    rfl
  have addressed :
      (⟨"m", "create-box", [], some (.text "a")⟩ : Command).target =
        (some "a").map Value.text := rfl
  obtain ⟨choice, dispatches⟩ :=
    Given.dispatches (Scenario.hostOf []) inhabited misdirected read addressed
  have found : inhabited.registered.get? "m" = some 0 := by decide +kernel
  have holds : (inhabited.moduleOf 0).registry.get? "a" = some 0 := by decide +kernel
  have missing : (inhabited.object 0).verbs.get? "create-box" = none := by
    rw [← Option.isNone_iff_eq_none]
    decide +kernel
  have named : (inhabited.object 0).id = "a" := by decide +kernel
  have refuses :
      inhabited.Refuses "m" "create-box" (some "a") .unknownNanoCommand
        (.unknownVerb (inhabited.object 0).id "create-box" "m") :=
    .unknownVerb found (by decide) rfl (by decide) holds missing
  rw [named] at refuses
  exact ⟨by decide +kernel, _, choice, read, rfl, dispatches,
    (dispatches.refused_iff _).mpr ⟨_, refuses⟩⟩

end CommandHost
