import CommandHost.Module.Declaration
import CommandHost.Proofs.Dispatch.Separation
import Mathlib.Data.String.Basic

/-!
# Operations under all spellings

The names of operations are made normal in three places: where a class of modules
exposes a method, where an operation is registered, and where a command is executed.
The operations of a module are well named throughout, and a look-up sees the calls that
registered operations only through the normal names that they were given.
-/

namespace CommandHost

variable {V : Vocabulary}

/-! ## The operations of a class -/

namespace ClassBody

variable {bodies : List (ClassBody V)} {operation name : String}

theorem mem_exposures_iff :
    (operation, name) ∈ exposures bodies ↔
      ∃ body ∈ bodies, ∃ method,
        (name, method) ∈ body ∧ method.operationName? name = some operation := by
  constructor
  · intro member
    obtain ⟨⟨given, method⟩, inBody, exposed⟩ := List.mem_filterMap.mp member
    obtain ⟨found, isName, pair⟩ := Option.map_eq_some_iff.mp exposed
    obtain ⟨rfl, rfl⟩ := Prod.mk.injEq .. ▸ pair
    obtain ⟨body, isBody, inside⟩ := List.mem_flatten.mp inBody
    exact ⟨body, isBody, method, inside, isName⟩
  · rintro ⟨body, isBody, method, inside, isName⟩
    refine List.mem_filterMap.mpr ⟨(name, method), List.mem_flatten_of_mem isBody inside, ?_⟩
    simp [isName]

theorem operationName?_normal {method : Method V}
    (exposed : method.operationName? name = some operation) :
    normalOpName operation = operation := by
  unfold Method.operationName? at exposed
  cases asked : method.exposed with
  | none => simp [asked] at exposed
  | some given =>
      simp only [asked, Option.ite_none_left_eq_some, Option.some.injEq] at exposed
      rw [← exposed.2, normalOpName_normalOpName]

/-- What is exposed is there, in the class itself or in one that it is based on. -/
theorem method?_isSome (exposed : (operation, name) ∈ exposures bodies) :
    (method? bodies name).isSome = true := by
  obtain ⟨body, isBody, method, inside, -⟩ := mem_exposures_iff.mp exposed
  refine List.findSome?_isSome_iff.mpr ⟨body, List.mem_reverse.mpr isBody, ?_⟩
  exact (Table.has_iff_mem_keys body name).mpr (List.mem_map.mpr ⟨_, inside, rfl⟩)

end ClassBody

namespace Operations

/-- Every operation stands once, under its normal name. -/
structure WellNamed (operations : Operations V) : Prop where
  distinct : operations.keys.Nodup
  normal : ∀ name ∈ operations.keys, normalOpName name = name

/-- The method that does an operation of a class is the one under the name that exposes the
operation last. -/
theorem get?_declared (bodies : List (ClassBody V)) (operation : String) :
    (declared bodies).get? operation =
      ((Table.get? (ClassBody.exposures bodies).reverse operation).bind
        (ClassBody.method? bodies)).map Method.content := by
  -- The look-up goes through the filter because the table has each operation once.
  have distinct := @Table.nodup_keys_putAll _ [] List.nodup_nil (ClassBody.exposures bodies)
  rw [declared, Table.get?_filterMap ?_ distinct, Table.get?_putAll, Table.get?_nil,
    Option.or_none]
  · cases Table.get? (ClassBody.exposures bodies).reverse operation with
    | none => rfl
    | some name =>
        simp only [Option.bind_some, Option.map_map]
        rfl
  · rintro ⟨key, name⟩ changed isLeft
    obtain ⟨method, -, rfl⟩ := Option.map_eq_some_iff.mp isLeft
    rfl

example : (declared [.basic] : Operations V) = .builtin := by rfl

/-- A class has the operations that its bodies expose. -/
theorem has_declared_iff (bodies : List (ClassBody V)) (operation : String) :
    (declared bodies).has operation = true ↔
      ∃ name, (operation, name) ∈ ClassBody.exposures bodies := by
  rw [Table.has, get?_declared, Option.isSome_map]
  constructor
  · intro present
    obtain ⟨method, found⟩ := Option.isSome_iff_exists.mp present
    obtain ⟨name, isLast, -⟩ := Option.bind_eq_some_iff.mp found
    exact ⟨name, List.mem_reverse.mp (Table.mem_of_get? isLast)⟩
  · rintro ⟨name, exposed⟩
    have named : operation ∈ Table.keys (ClassBody.exposures bodies).reverse :=
      List.mem_map.mpr ⟨_, List.mem_reverse.mpr exposed, rfl⟩
    obtain ⟨last, isLast⟩ :=
      Option.isSome_iff_exists.mp ((Table.has_iff_mem_keys _ operation).mpr named)
    rw [isLast]
    exact ClassBody.method?_isSome (List.mem_reverse.mp (Table.mem_of_get? isLast))

theorem wellNamed_declared (bodies : List (ClassBody V)) : (declared bodies).WellNamed where
  distinct := by
    have distinct := @Table.nodup_keys_putAll _ [] List.nodup_nil (ClassBody.exposures bodies)
    refine distinct.sublist (Table.keys_filterMap_sublist ?_ _)
    rintro ⟨key, name⟩ changed isLeft
    obtain ⟨method, -, rfl⟩ := Option.map_eq_some_iff.mp isLeft
    rfl
  normal operation member := by
    obtain ⟨name, exposed⟩ :=
      (has_declared_iff bodies operation).mp ((Table.has_iff_mem_keys _ operation).mpr member)
    obtain ⟨-, -, method, -, isName⟩ := ClassBody.mem_exposures_iff.mp exposed
    exact ClassBody.operationName?_normal isName

variable {operations : Operations V}

theorem WellNamed.register (wellNamed : operations.WellNamed) (name : String)
    (operation : Operation V) : (operations.register name operation).WellNamed where
  distinct := Table.nodup_keys_put wellNamed.distinct (normalOpName name) operation
  normal other member := by
    rw [← Table.has_iff_mem_keys, Table.has, Operations.register, Table.get?_put] at member
    by_cases same : other = normalOpName name
    · rw [same, normalOpName_normalOpName]
    · rw [if_neg same] at member
      exact wellNamed.normal other ((Table.has_iff_mem_keys _ other).mp member)

theorem WellNamed.names_ascending (wellNamed : operations.WellNamed) :
    operations.names.Pairwise (· < ·) := by
  have sorted : operations.names.Pairwise (· ≤ ·) := by
    refine (List.pairwise_mergeSort ?_ ?_ operations.keys).imp of_decide_eq_true
    · intro first second third firstLe secondLe
      exact decide_eq_true ((of_decide_eq_true firstLe).trans (of_decide_eq_true secondLe))
    · intro first second
      simpa using le_total first second
  have distinct : operations.names.Nodup :=
    (List.mergeSort_perm operations.keys _).nodup_iff.mpr wellNamed.distinct
  exact (sorted.and distinct).imp fun ⟨le, ne⟩ => lt_of_le_of_ne le ne

theorem WellNamed.mem_names_iff (wellNamed : operations.WellNamed) (name : String) :
    name ∈ operations.names ↔
      normalOpName name = name ∧ (operations.find? name).isSome = true := by
  rw [names, (List.mergeSort_perm operations.keys _).mem_iff]
  constructor
  · intro member
    have normal := wellNamed.normal name member
    refine ⟨normal, ?_⟩
    rw [find?, normal]
    exact (Table.has_iff_mem_keys operations name).mpr member
  · rintro ⟨normal, present⟩
    rw [find?, normal] at present
    exact (Table.has_iff_mem_keys operations name).mp present

/-- What was registered last under some spelling of a name. -/
def latest? (calls : List (String × Operation V)) (name : String) : Option (Operation V) :=
  (calls.reverse.find? fun call => decide (normalOpName call.1 = normalOpName name)).map
    Prod.snd

theorem latest?_append (calls : List (String × Operation V)) (name other : String)
    (operation : Operation V) :
    latest? (calls ++ [(name, operation)]) other =
      if normalOpName other = normalOpName name then some operation
      else latest? calls other := by
  rw [latest?, List.reverse_append, List.reverse_singleton, List.singleton_append,
    List.find?_cons]
  by_cases same : normalOpName name = normalOpName other
  · simp [same]
  · simp [same, Ne.symm same, latest?]

end Operations

/-! ## The operations of a module -/

namespace World

/-- A module of a class after some calls that registered operations.  Whatever else happened
in between left its operations alone. -/
inductive Equipped (place : Nat) (bodies : List (ClassBody V)) :
    List (String × Operation V) → World V → Prop where
  | made {kind : ModuleClass V} {name : String} {context : Nat} {world later : World V}
      (declares : kind.operations = .declared bodies)
      (ran : (makeModule kind name context).run world = .ok place later) :
      Equipped place bodies [] later
  | registered {calls : List (String × Operation V)} {world later : World V} {name : String}
      {operation : Operation V} (equipped : Equipped place bodies calls world)
      (ran : (registerOperation place name operation).run world = .ok () later) :
      Equipped place bodies (calls ++ [(name, operation)]) later
  | changed {calls : List (String × Operation V)} {world later : World V}
      (equipped : Equipped place bodies calls world) (there : place < later.modules.size)
      (same : (later.moduleOf place).operations = (world.moduleOf place).operations) :
      Equipped place bodies calls later

/-- What a module of a class does and tells after some calls that registered operations. -/
structure Serves (host : Host V) (place : Nat) (bodies : List (ClassBody V))
    (calls : List (String × Operation V)) (world : World V) : Prop where
  /-- A command without an object is handed to the operation that was registered last under a
  spelling of its name. -/
  latest : ∀ (command : Command) (operation : Operation V), command.op ≠ "" →
    command.target.filter Value.truthy = none →
      Operations.latest? calls command.op = some operation →
        world.Starts host (fun host => executeIn host place command) command
          (.operation place operation)
  /-- Where none was registered, it is handed to the operation of the class. -/
  declared : ∀ (command : Command) (operation : Operation V), command.op ≠ "" →
    command.target.filter Value.truthy = none →
      Operations.latest? calls command.op = none →
        (Operations.declared bodies).get? (normalOpName command.op) = some operation →
          world.Starts host (fun host => executeIn host place command) command
            (.operation place operation)
  /-- Where the class has none either, it is refused. -/
  refuses : ∀ command : Command, command.op ≠ "" →
    command.target.filter Value.truthy = none →
      Operations.latest? calls command.op = none →
        (Operations.declared bodies).get? (normalOpName command.op) = none →
          (executeIn host place command).run world =
            .error (.unknownOperation (world.moduleOf place).name command.op) world
  /-- A mapping is executed like the command that is read from it. -/
  mapping : ∀ entries command, Command.ofWire entries = .ok command →
    (executeValueIn host place (.map entries)).run world =
      (executeIn host place command).run world
  has_iff : ∀ name,
    (world.moduleOf place).hasOperation name = true ↔
      (Operations.latest? calls name).isSome = true ∨
        ((Operations.declared bodies).get? (normalOpName name)).isSome = true
  names_ascending : (world.moduleOf place).operations.names.Pairwise (· < ·)
  mem_names_iff : ∀ name,
    name ∈ (world.moduleOf place).operations.names ↔
      normalOpName name = name ∧ (world.moduleOf place).hasOperation name = true

variable {place : Nat} {bodies : List (ClassBody V)} {calls : List (String × Operation V)}
variable {world : World V}

theorem moduleOf_registerOperation (there : place < world.modules.size) (name : String)
    (operation : Operation V) {later : World V}
    (ran : (registerOperation place name operation).run world = .ok () later) :
    place < later.modules.size ∧
      (later.moduleOf place).operations =
        (world.moduleOf place).operations.register name operation := by
  cases ran
  refine ⟨by simpa using there, ?_⟩
  simp [moduleOf, Array.getD, there, Array.getElem_modify_self]

/-- The operations of a module are well named, and show the calls by their normal names. -/
theorem Equipped.operations (equipped : Equipped place bodies calls world) :
    place < world.modules.size ∧ (world.moduleOf place).operations.WellNamed ∧
      ∀ name, (world.moduleOf place).operations.find? name =
        (Operations.latest? calls name).or ((Operations.declared bodies).find? name) := by
  induction equipped with
  | @made kind name context world later declares ran =>
      rw [makeModule] at ran
      split at ran
      · cases ran
      · cases ran
        have operations_eq : (moduleOf { world with
            modules := world.modules.push (.ofClass kind name context) }
              world.modules.size).operations = .declared bodies := by
          simp [moduleOf, Array.getD, Module.ofClass, declares]
        refine ⟨by simp, ?_, fun name => ?_⟩
        · rw [operations_eq]
          exact Operations.wellNamed_declared bodies
        · rw [operations_eq]
          rfl
  | @registered calls world later name operation equipped ran inductionHypothesis =>
      obtain ⟨there, wellNamed, found⟩ := inductionHypothesis
      obtain ⟨thereLater, operations_eq⟩ := moduleOf_registerOperation there name operation ran
      refine ⟨thereLater, ?_, fun other => ?_⟩
      · rw [operations_eq]
        exact wellNamed.register name operation
      · rw [operations_eq, Operations.find?_register, Operations.latest?_append, found]
        split
        · rfl
        · rfl
  | changed equipped there same inductionHypothesis =>
      rw [same]
      exact ⟨there, inductionHypothesis.2⟩

/-- A command without an object runs what is found under its name. -/
theorem executeIn_unaddressed (host : Host V) {command : Command} (named : command.op ≠ "")
    (unaddressed : command.target.filter Value.truthy = none) :
    (executeIn host place command).run world =
      world.follow host command
        (match (world.moduleOf place).operations.find? command.op with
        | none => .error (.unknownOperation (world.moduleOf place).name command.op)
        | some operation => .ok (.operation place operation)) := by
  rw [executeIn, run_bind_ok (EStateM.run_get world)]
  simp only [if_neg named, unaddressed]
  cases (world.moduleOf place).operations.find? command.op <;> rfl

/-- A module has, lists and runs operations up to the spelling of their names: the last one
that was registered, or else the one of its class.  Names that are normal are so for good. -/
theorem Equipped.serves (host : Host V) (equipped : Equipped place bodies calls world) :
    world.Serves host place bodies calls ∧
      ∀ name, normalOpName (normalOpName name) = normalOpName name := by
  obtain ⟨-, wellNamed, found⟩ := equipped.operations
  have finds (command : Command) : (world.moduleOf place).operations.find? command.op =
      (Operations.latest? calls command.op).or
        ((Operations.declared bodies).get? (normalOpName command.op)) := found command.op
  have starts (command : Command) (operation : Operation V) (named : command.op ≠ "")
      (unaddressed : command.target.filter Value.truthy = none)
      (isFound : (world.moduleOf place).operations.find? command.op = some operation) :
      world.Starts host (fun host => executeIn host place command) command
        (.operation place operation) :=
    starts_of_run fun host => by
      rw [executeIn_unaddressed host named unaddressed, isFound]
      rfl
  refine ⟨⟨?latest, ?declared, ?refuses, ?mapping, ?has_iff, wellNamed.names_ascending,
    wellNamed.mem_names_iff⟩, normalOpName_normalOpName⟩
  case latest =>
    intro command operation named unaddressed last
    exact starts command operation named unaddressed (by rw [finds, last]; rfl)
  case declared =>
    intro command operation named unaddressed notRegistered ofClass
    exact starts command operation named unaddressed (by rw [finds, notRegistered, ofClass]; rfl)
  case refuses =>
    intro command named unaddressed notRegistered notDeclared
    rw [executeIn_unaddressed host named unaddressed, finds, notRegistered, notDeclared]
    rfl
  case mapping =>
    intro entries command read
    simp only [executeValueIn, read]
    rfl
  case has_iff =>
    intro name
    have found := found name
    rw [Operations.find?, Operations.find?] at found
    rw [Module.hasOperation, Table.has, found, Option.isSome_or, Bool.or_eq_true]

/-- Operations for a sample module: one of its class under two other spellings, and a new
one. -/
def respellings : List (String × Operation Scenario.vocabulary) :=
  [("\u2003create box", .custom .spacedInfo), ("wave", .custom .infoDerived),
    ("create_box ", .custom .echo)]

/-- A sample module. -/
def unspelled : World Scenario.vocabulary :=
  after (makeModule Scenario.SampleModule.sample.toClass "m" 0)
    (Scenario.startWorld .standard false)

/-- The sample module after the operations were registered. -/
def respelled : World Scenario.vocabulary :=
  after (respellings.forM fun call => registerOperation 0 call.1 call.2) unspelled

theorem Equipped.serves_respelled :
    Equipped 0 [.basic, Scenario.sampleBody] respellings respelled ∧
      respelled.Serves (Scenario.hostOf []) 0 [.basic, Scenario.sampleBody] respellings ∧
        Operations.latest? respellings " create-box" = some (.custom .echo) ∧
          (respelled.moduleOf 0).hasOperation "create\tbox" = false := by
  have made : (makeModule Scenario.SampleModule.sample.toClass "m" 0).run
      (Scenario.startWorld .standard false) = .ok 0 unspelled := by
    have solid : ¬ Text.isBlankText "m".toList = true := by decide
    rw [unspelled, after, makeModule, if_neg solid]
    rfl
  have spelled : Equipped 0 [.basic, Scenario.sampleBody] respellings respelled :=
    (((Equipped.made rfl made).registered rfl).registered rfl).registered rfl
  exact ⟨spelled, (Equipped.serves (Scenario.hostOf []) spelled).1, by rfl, by decide +kernel⟩

end World

end CommandHost
