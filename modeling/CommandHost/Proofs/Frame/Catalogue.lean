import CommandHost.Proofs.Object.Clearance
import CommandHost.World.Frames

/-!
# What the program knows of its modules and their objects

For a frame it matters which modules are registered under which names, which objects they
have registered, and which of these listen.  Everything that a program does shifts this in
four ways at most: a module is registered, an object is added to a registry, entries of a
registry are given up, or something changes elsewhere.  Creations and removals are
sequences of such shifts.  Each shift keeps the catalogue in order, in particular the
frame listeners of a module, which are kept apart from its objects.
-/

namespace CommandHost

variable {V : Vocabulary}

namespace Registry

/-- The registry with some of its entries only. -/
def select (registry : Registry) (kept : String × Nat → Bool) : Registry :=
  ⟨registry.objects.filter kept, registry.frameListeners.filter kept⟩

theorem removeOwn_eq_select (registry : Registry) (id : String) (handle : Nat) :
    registry.removeOwn id handle =
      registry.select fun entry => registry.get? id ≠ some handle ∨ entry.1 ≠ id := by
  by_cases own : registry.get? id = some handle
  · simp [removeOwn, own, remove, Table.erase, select]
  · simp [removeOwn, own, select]

end Registry

theorem Scene.Keyed.select {scene : Scene} {base : Nat} (keyed : scene.Keyed base)
    (kept : String × Nat → Bool) :
    { scene with registry := scene.registry.select kept }.Keyed base where
  keys_nodup := keyed.keys_nodup.sublist (List.filter_sublist.map Prod.fst)
  lt_count entry member := keyed.lt_count entry (List.mem_filter.mp member).1
  listeners_eq := by
    simp only [Registry.select, keyed.listeners_eq, List.filter_filter, Bool.and_comm]
  own_id entry member := keyed.own_id entry (List.mem_filter.mp member).1

namespace World

/-! ## Shifts -/

/-- A change that leaves the registries, the names and contexts of modules, the ids and
classes of objects, and the context of the program alone. -/
structure Elsewhere (world later : World V) : Prop where
  objects_le : world.objects.size ≤ later.objects.size
  object_eq : ∀ handle < world.objects.size,
    (later.object handle).id = (world.object handle).id ∧
      (later.object handle).kind = (world.object handle).kind
  modules_le : world.modules.size ≤ later.modules.size
  module_eq : ∀ place < world.modules.size,
    (later.moduleOf place).name = (world.moduleOf place).name ∧
      (later.moduleOf place).context = (world.moduleOf place).context
  registry_eq : ∀ place, (later.moduleOf place).registry = (world.moduleOf place).registry
  registered_eq : later.registered = world.registered
  hubs_le : world.hubs.size ≤ later.hubs.size
  context_eq : later.mainHub = world.mainHub ∧
    (later.context mainContext).config = (world.context mainContext).config

/-- What can happen to what the program knows of its modules and their objects. -/
inductive Shift (world : World V) : World V → Prop where
  | elsewhere {later : World V} (elsewhere : world.Elsewhere later) : Shift world later
  | registered (place : Nat) (there : place < world.modules.size) :
      Shift world (after (registerModule place) world)
  | added (place : Nat) {handle : Nat} (there : handle < world.objects.size) :
      Shift world (after (addObject place handle) world)
  | selected (place : Nat) (kept : Registry → String × Nat → Bool) :
      Shift world
        (after (Effect.updateRegistry place fun registry => registry.select (kept registry)) world)

/-- One shift after the other. -/
abbrev Shifts : World V → World V → Prop := Relation.ReflTransGen Shift

/-- The worlds that a program can get into. -/
def Running (world : World V) : Prop :=
  ∃ config verbs memory, Shifts (start config verbs memory) world

variable {world middle later : World V}

namespace Elsewhere

theorem refl (world : World V) : world.Elsewhere world :=
  ⟨Nat.le_refl _, fun _ _ => ⟨rfl, rfl⟩, Nat.le_refl _, fun _ _ => ⟨rfl, rfl⟩, fun _ => rfl, rfl,
    Nat.le_refl _, rfl, rfl⟩

theorem trans (first : world.Elsewhere middle) (second : middle.Elsewhere later) :
    world.Elsewhere later where
  objects_le := first.objects_le.trans second.objects_le
  object_eq handle there := by
    obtain ⟨id_eq, kind_eq⟩ := second.object_eq handle (there.trans_le first.objects_le)
    rw [id_eq, kind_eq]
    exact first.object_eq handle there
  modules_le := first.modules_le.trans second.modules_le
  module_eq place there := by
    obtain ⟨name_eq, context_eq⟩ := second.module_eq place (there.trans_le first.modules_le)
    rw [name_eq, context_eq]
    exact first.module_eq place there
  registry_eq place := (second.registry_eq place).trans (first.registry_eq place)
  registered_eq := second.registered_eq.trans first.registered_eq
  hubs_le := first.hubs_le.trans second.hubs_le
  context_eq := ⟨second.context_eq.1.trans first.context_eq.1,
    second.context_eq.2.trans first.context_eq.2⟩

theorem log (record : LogRecord) (world : World V) :
    world.Elsewhere (after (Effect.log record) world) :=
  { refl world with }

theorem relink (world : World V) (handle : Nat) {change : RuntimeObject V → RuntimeObject V}
    (relinked : ∀ object : RuntimeObject V, object.Relinked (change object)) :
    world.Elsewhere (after (Effect.updateObject handle change) world) :=
  { refl world with
    objects_le := Array.size_modify.ge
    object_eq := fun other _ => by
      rw [object_updateObject]
      split
      · rw [relinked (world.object other)]
        exact ⟨rfl, rfl⟩
      · exact ⟨rfl, rfl⟩ }

theorem releaseOwner (world : World V) (hub : Nat) (owner : Value) :
    world.Elsewhere (after (releaseOwner hub owner) world) := by
  obtain ⟨final, ran, rebused⟩ := releaseOwner_rebused world hub owner
  rw [after_of_ok ran]
  have size_eq := rebused.size_eq
  rw [rebused.rest_eq]
  exact { refl world with hubs_le := size_eq.ge }

theorem updateHub (world : World V) (hub : Nat) (change : Hub V → Hub V) :
    world.Elsewhere { world with hubs := world.hubs.modify hub change } :=
  { refl world with hubs_le := Array.size_modify.ge }

theorem listen (world : World V) (hub : Nat) (event : String) (callback : V.Callback)
    (options : ListenerOptions) :
    world.Elsewhere (after (listen hub event callback options) world) := by
  have logs (record : LogRecord) : Keeps world.Elsewhere (Effect.log record) :=
    fun middle elsewhere => elsewhere.trans (.log record middle)
  have registers (change : Bus V.Callback → Bus V.Callback) :
      Keeps world.Elsewhere (Effect.updateBus hub change) :=
    fun middle elsewhere => elsewhere.trans (updateHub middle hub _)
  unfold World.listen
  rw [after_bind_ok (EStateM.run_get world)]
  have counting : (set { world with listenerIds := world.listenerIds + 1 } :
      Effect V PUnit).run world =
        .ok .unit { world with listenerIds := world.listenerIds + 1 } := rfl
  rw [after_bind_ok counting]
  exact Keeps.bind (registers _) (fun _ => .ite (.bind (logs _) fun _ => .pure _) (.pure _)) _
    { refl world with }

theorem construct (world : World V) (kind : ObjectClass V) (descriptor : Entries)
    (verbs : Verbs V.Verb) (hub : Option Nat) :
    world.Elsewhere (after (construct kind descriptor verbs hub) world) := by
  rcases construct_cases kind descriptor verbs hub world with
    ⟨cause, refused⟩ | ⟨object, ids, -, ran⟩
  · rw [after_of_error refused]
    exact refl world
  rw [after_of_ok ran]
  exact
    { refl world with
      objects_le := (Array.size_push _).ge.trans' (Nat.le_succ _)
      object_eq := fun handle there => by
        rw [@object_of_push V world _ _ rfl, if_neg there.ne]
        exact ⟨rfl, rfl⟩ }

theorem moduleOf_push (world : World V) (made : Module V) (place : Nat) :
    moduleOf { world with modules := world.modules.push made } place =
      if place = world.modules.size then made else world.moduleOf place := by
  by_cases isNew : place = world.modules.size
  · simp [moduleOf, Array.getD, isNew]
  · by_cases there : place < world.modules.size
    · simp [moduleOf, Array.getD, isNew, there, Nat.lt_succ_of_lt there,
        Array.getElem_push_lt there]
    · have outside : ¬ place < world.modules.size + 1 := by omega
      simp [moduleOf, Array.getD, isNew, there, outside]

/-- A new module has no objects, like a module that is not there. -/
theorem makeModule (world : World V) (kind : ModuleClass V) (name : String) (context : Nat) :
    world.Elsewhere (after (makeModule kind name context) world) := by
  unfold World.makeModule
  by_cases blank : Text.isBlankText name.toList = true
  · rw [if_pos blank]
    exact refl world
  · rw [if_neg blank]
    have module_eq := moduleOf_push world (.ofClass kind name context)
    have absent : (world.moduleOf world.modules.size).registry = .empty := by
      simp only [moduleOf, Array.getD, Nat.lt_irrefl, dif_neg, not_false_eq_true]
      rfl
    exact
      { refl world with
        modules_le := (Array.size_push _).ge.trans' (Nat.le_succ _)
        module_eq := fun place there => by
          have same := (module_eq place).trans (if_neg there.ne)
          exact ⟨congrArg Module.name same, congrArg Module.context same⟩
        registry_eq := fun place => by
          refine (congrArg Module.registry (module_eq place)).trans ?_
          split
          · next isNew => rw [isNew, absent]; rfl
          · rfl }

end Elsewhere

/-! ## The catalogue -/

/-- Names lead to modules of these names, registries are in order, and there is a hub for
the program. -/
structure Catalogued (world : World V) : Prop where
  keyed : ∀ place, (world.scene place).Keyed 0
  names_nodup : world.registered.keys.Nodup
  registered : ∀ name place, world.registered.get? name = some place →
    place < world.modules.size ∧ (world.moduleOf place).name = name
  hub_there : world.mainHub < world.hubs.size

theorem start_catalogued (config : RuntimeConfig) (verbs : Verbs V.Verb) (memory : V.Memory) :
    (start config verbs memory).Catalogued where
  keyed place := ⟨List.nodup_nil, nofun, rfl, nofun⟩
  names_nodup := List.nodup_nil
  registered _ _ found := by cases found
  hub_there := Nat.zero_lt_one

theorem Catalogued.elsewhere (catalogued : world.Catalogued) (elsewhere : world.Elsewhere later) :
    later.Catalogued where
  keyed place := (catalogued.keyed place).transfer elsewhere.objects_le
    (elsewhere.registry_eq place) (fun handle there => (elsewhere.object_eq handle there).1)
    fun handle there => by
      have kind_eq := (elsewhere.object_eq handle there).2
      exact congrArg (fun kind : ObjectClass V => kind.ticker.isSome) kind_eq
  names_nodup := elsewhere.registered_eq ▸ catalogued.names_nodup
  registered name place found := by
    rw [elsewhere.registered_eq] at found
    obtain ⟨there, name_eq⟩ := catalogued.registered name place found
    exact ⟨there.trans_le elsewhere.modules_le, (elsewhere.module_eq place there).1.trans name_eq⟩
  hub_there := by
    rw [elsewhere.context_eq.1]
    exact catalogued.hub_there.trans_le elsewhere.hubs_le

/-- Changing one registry changes one scene. -/
theorem scene_updateRegistry (world : World V) (place other : Nat)
    (change : Registry → Registry) :
    (after (Effect.updateRegistry place change) world).scene other =
      if other = place ∧ other < world.modules.size then
        { world.scene other with registry := change (world.scene other).registry }
      else world.scene other := by
  have known_eq : (after (Effect.updateRegistry place change) world).modules.size =
      world.modules.size := Array.size_modify
  rw [scene, moduleOf_updateRegistry, known_eq]
  split
  · rfl
  · rfl

theorem Catalogued.updateRegistry (catalogued : world.Catalogued) {place : Nat}
    {change : Registry → Registry}
    (keyed : { world.scene place with
      registry := change (world.scene place).registry }.Keyed 0) :
    (after (Effect.updateRegistry place change) world).Catalogued where
  keyed other := by
    rw [scene_updateRegistry]
    by_cases same : other = place ∧ other < world.modules.size
    · rw [if_pos same, same.1]
      exact keyed
    · rw [if_neg same]
      exact catalogued.keyed other
  names_nodup := catalogued.names_nodup
  registered name other found := by
    obtain ⟨there, name_eq⟩ := catalogued.registered name other found
    refine ⟨there.trans_eq Array.size_modify.symm, ?_⟩
    rw [moduleOf_updateRegistry]
    split
    · exact name_eq
    · exact name_eq
  hub_there := catalogued.hub_there

theorem Catalogued.registerModule (catalogued : world.Catalogued) {place : Nat}
    (there : place < world.modules.size) :
    (after (registerModule place) world).Catalogued := by
  rw [World.registerModule, after_bind_ok (EStateM.run_get world)]
  by_cases taken : world.registered.has (world.moduleOf place).name = true
  · simp only [taken, if_true]
    exact catalogued
  · simp only [taken, if_false, Bool.false_eq_true]
    refine Catalogued.elsewhere ?_ (Elsewhere.log _ _)
    exact {
      keyed := catalogued.keyed
      names_nodup := Table.nodup_keys_put catalogued.names_nodup _ _
      registered := fun name other found => by
        rw [Table.get?_put] at found
        by_cases isNew : name = (world.moduleOf place).name
        · rw [if_pos isNew, Option.some.injEq] at found
          exact ⟨found ▸ there, found ▸ isNew.symm⟩
        · rw [if_neg isNew] at found
          exact catalogued.registered name other found
      hub_there := catalogued.hub_there }

/-- What registering an object does, apart from a line that it may log first. -/
theorem addObject_after (world : World V) (place handle : Nat) :
    ∃ middle, world.Elsewhere middle ∧ middle.objects = world.objects ∧
      after (addObject place handle) world =
        after (Effect.updateRegistry place fun registry =>
          registry.add (middle.object handle).id handle (middle.object handle).listensToFrames)
            middle := by
  rw [addObject, after_bind_ok (EStateM.run_get world)]
  by_cases taken : (world.moduleOf place).registry.has (world.object handle).id = true
  · simp only [taken, if_true]
    exact ⟨_, .log _ world, rfl, rfl⟩
  · simp only [taken, Bool.false_eq_true, if_false]
    exact ⟨world, .refl world, rfl, rfl⟩

theorem Catalogued.addObject (catalogued : world.Catalogued) (place : Nat) {handle : Nat}
    (there : handle < world.objects.size) : (after (addObject place handle) world).Catalogued := by
  obtain ⟨middle, elsewhere, objects_eq, after_eq⟩ := addObject_after world place handle
  have known := catalogued.elsewhere elsewhere
  have keyed := (known.keyed place).register (objects_eq ▸ there : handle < middle.objects.size)
  rw [after_eq]
  exact known.updateRegistry keyed

theorem Shift.catalogued (shift : Shift world later) (catalogued : world.Catalogued) :
    later.Catalogued := by
  cases shift with
  | elsewhere elsewhere => exact catalogued.elsewhere elsewhere
  | registered place there => exact catalogued.registerModule there
  | added place there => exact catalogued.addObject place there
  | selected place kept =>
      exact catalogued.updateRegistry ((catalogued.keyed place).select _)

theorem Running.catalogued (running : world.Running) : world.Catalogued := by
  obtain ⟨config, verbs, memory, shifts⟩ := running
  induction shifts with
  | refl => exact start_catalogued config verbs memory
  | tail _ shift inductionHypothesis => exact shift.catalogued inductionHypothesis

/-! ## Creations and removals -/

theorem maintained_shifts (origin : World V) (place : Nat) :
    Maintained place (Shifts origin) where
  log record world shifts := shifts.tail (.elsewhere (.log record world))
  relink handle _ relinked world shifts := shifts.tail (.elsewhere (.relink world handle relinked))
  releaseOwner hub owner world shifts :=
    shifts.tail (.elsewhere (.releaseOwner world hub owner))
  removeOwn handle world shifts := by
    have selects := funext fun registry : Registry =>
      registry.removeOwn_eq_select (world.object handle).id handle
    have step : Shift world (after (Effect.updateRegistry place fun registry =>
        registry.removeOwn (world.object handle).id handle) world) := by
      rw [selects]
      exact .selected place _
    exact shifts.tail step

theorem enter_shifts (origin : World V) (place : Nat) (kind : ObjectClass V)
    (descriptor : Entries) (verbs : Verbs V.Verb) (hub : Option Nat) :
    Keeps (Shifts origin) (enter place kind descriptor verbs hub) := by
  intro world shifts
  have elsewhere := Elsewhere.construct world kind descriptor verbs hub
  rcases construct_cases kind descriptor verbs hub world with
    ⟨cause, refused⟩ | ⟨object, ids, -, ran⟩
  · rw [enter, after_of_error (run_bind_error refused)]
    exact shifts
  have there : world.objects.size < (world.objects.push object).size :=
    (Nat.lt_succ_self _).trans_eq (Array.size_push _).symm
  rw [after_of_ok ran] at elsewhere
  rw [enter, after_bind_ok ran, after_bind_pure]
  exact (shifts.tail (.elsewhere elsewhere)).tail (.added place there)

end World

/-- The hooks of a host do nothing but shift. -/
def Host.Shifts (host : Host V) : Prop :=
  ∀ hook handle world, World.Shifts world (World.after (host.hook hook handle) world)

theorem Host.Shifts.maintains {host : Host V} (hooks : host.Shifts) (origin : World V)
    (place : Nat) : host.Maintains place (World.Shifts origin) where
  toMaintained := World.maintained_shifts origin place
  enter kind descriptor verbs hub :=
    World.enter_shifts origin place kind descriptor verbs (some hub)
  hook hook handle world shifts := shifts.trans (hooks hook handle world)

namespace World

variable {host : Host V} {world : World V}

/-- Wherever modules create objects, with whatever outcome, the program is still running. -/
theorem Running.created (running : world.Running) (hooks : host.Shifts) (place : Nat)
    (data : Value) : (after (create host place data) world).Running := by
  obtain ⟨config, verbs, memory, shifts⟩ := running
  exact ⟨config, verbs, memory, (hooks.maintains _ place).create data world shifts⟩

theorem Running.removed (running : world.Running) (place : Nat) (id : String) :
    (after (remove place id) world).Running := by
  obtain ⟨config, verbs, memory, shifts⟩ := running
  exact ⟨config, verbs, memory, (maintained_shifts _ place).remove id world shifts⟩

end World

end CommandHost
