import CommandHost.Proofs.Object.Blueprint
import CommandHost.Proofs.Object.Clearance

/-!
# Adding new objects to a module

An object takes the id that its descriptor gives, or else one that is generated, and it is
registered at once.  `Enrolled` says what that does to the module as long as all ids are
free: the new objects are added to the registry at the end, in the order in which they are
built, and nothing else of the module changes.

`Awaits` is what has to be so before: the ids that are still to be given are distinct and
free, and so are those that are still to be generated.  What is left of them is as free
after some objects were added.
-/

namespace CommandHost

variable {V : Vocabulary}

/-! ## Objects that are built -/

/-- An object that was built from a blueprint, with its place and its id. -/
structure Site (V : Vocabulary) where
  handle : Nat
  id : String
  plan : Blueprint V

namespace Site

/-- What the object is, with its place among the others. -/
def object (site : Site V) (context : Context V) (parent : Option Nat)
    (children : List Nat) : RuntimeObject V :=
  let keys := DescriptorKeys.standard
  { id := site.id
    type := (site.plan.text? keys.type).getD RuntimeObject.defaultType
    name := (site.plan.text? keys.name).getD site.id
    data := site.plan.data
    kind := site.plan.kind
    verbs := context.verbs.extend site.plan.kind.verbs
    hub := some context.hub
    parent
    children
    disposed := false }

/-- The entry of the object in a registry. -/
def entry (site : Site V) : String × Nat := (site.id, site.handle)

/-- Whether the object listens to frames. -/
def listens (site : Site V) : Bool := site.plan.kind.ticker.isSome

/-- The id is the one that the descriptor gives, or else one that is generated between two
states of the counter. -/
def IsNamed (earlier later : Nat) (site : Site V) : Prop :=
  match site.plan.id? with
  | some id => site.id = id
  | none => ∃ number, earlier < number ∧ number ≤ later ∧ site.id = World.freshId number

end Site

/-- The registry with some objects added at the end. -/
def Registry.enrol (registry : Registry) (sites : List (Site V)) : Registry :=
  ⟨registry.objects ++ sites.map Site.entry,
    registry.frameListeners ++ (sites.filter Site.listens).map Site.entry⟩

/-- The module with some objects added to its registry. -/
def Module.enrol (found : Module V) (sites : List (Site V)) : Module V :=
  { found with registry := found.registry.enrol sites }

namespace World

/-- Two worlds are the same but for objects, what a module has of them, and the journal. -/
structure SameOutside (place : Nat) (world later : World V) : Prop where
  modules_eq : ∀ other, other ≠ place → later.moduleOf other = world.moduleOf other
  rest_eq : later =
    { world with
      objects := later.objects
      modules := later.modules
      objectIds := later.objectIds
      journal := later.journal }

/-- The objects that are there, a module and its context are left alone. -/
structure Spares (place : Nat) (world later : World V) : Prop where
  size_le : world.objects.size ≤ later.objects.size
  object_eq : ∀ handle < world.objects.size, later.object handle = world.object handle
  objectIds_le : world.objectIds ≤ later.objectIds
  known : place < world.modules.size → place < later.modules.size
  module_eq : later.moduleOf place = world.moduleOf place
  context_eq : later.context (world.moduleOf place).context =
    world.context (world.moduleOf place).context

/-- A module is there, and the ids of objects that are still to come are distinct and free:
those that are given and those that will be generated. -/
structure Awaits (place : Nat) (ids : List String) (world : World V) : Prop where
  known : place < world.modules.size
  listed : ∀ entry ∈ (world.moduleOf place).registry.frameListeners,
    entry ∈ (world.moduleOf place).registry.objects
  ids_nodup : ids.Nodup
  ids_free : ∀ id ∈ ids, (world.moduleOf place).registry.has id = false
  fresh_free : ∀ number, world.objectIds < number →
    (world.moduleOf place).registry.has (freshId number) = false ∧ freshId number ∉ ids

/-- New objects were added to the registry of a module under ids that were free: those that
their descriptors give, or else generated ones.  Nothing else of the module changed. -/
structure Enrolled (place : Nat) (world : World V) (sites : List (Site V)) (final : World V) :
    Prop where
  objectIds_le : world.objectIds ≤ final.objectIds
  named : ∀ site ∈ sites, site.IsNamed world.objectIds final.objectIds
  ids_nodup : (sites.map Site.id).Nodup
  ids_free : ∀ site ∈ sites, (world.moduleOf place).registry.has site.id = false
  known : place < final.modules.size
  module_eq : final.moduleOf place = (world.moduleOf place).enrol sites
  context_eq : final.context (world.moduleOf place).context =
    world.context (world.moduleOf place).context

/-- A module offers classes to descriptors, and a context to the objects. -/
structure Offers (place : Nat) (classes : Table (ObjectClass V)) (context : Context V)
    (world : World V) : Prop where
  classes_eq : (world.moduleOf place).classes = classes
  context_eq : world.context (world.moduleOf place).context = context

end World

/-! ## Adding to a registry -/

namespace Registry

variable {registry : Registry}

theorem enrol_nil (registry : Registry) : registry.enrol ([] : List (Site V)) = registry := by
  simp [enrol]

theorem enrol_append (registry : Registry) (first second : List (Site V)) :
    (registry.enrol first).enrol second = registry.enrol (first ++ second) := by
  simp [enrol]

/-- Under a free id an object is added at the end. -/
theorem add_eq_enrol
    (listed : ∀ entry ∈ registry.frameListeners, entry ∈ registry.objects) (site : Site V)
    (free : registry.has site.id = false) :
    registry.add site.id site.handle site.listens = registry.enrol [site] := by
  have objects_eq := add_objects registry site.id site.handle site.listens
  have listeners_eq := add_frameListeners listed site.id site.handle site.listens
  rw [Table.erase_eq_self free] at objects_eq
  rw [Table.erase_eq_self (frameListeners_has listed free)] at listeners_eq
  refine congrArg₂ Registry.mk objects_eq (listeners_eq.trans ?_)
  cases asked : site.listens <;> simp [asked, Site.entry]

/-- An id is taken that was taken before, or that an added object has. -/
theorem has_enrol (registry : Registry) (sites : List (Site V)) (id : String) :
    (registry.enrol sites).has id = false ↔
      registry.has id = false ∧ id ∉ sites.map Site.id := by
  have keys_eq : (registry.enrol sites).objects.keys =
      registry.objects.keys ++ sites.map Site.id := by
    simp [enrol, Table.keys, Site.entry, Function.comp_def]
  have free (other : Registry) : other.has id = false ↔ id ∉ other.objects.keys := by
    rw [← Table.has_iff_mem_keys, Bool.not_eq_true]
    rfl
  rw [free, free, keys_eq, List.mem_append, not_or]

theorem enrol_listed
    (listed : ∀ entry ∈ registry.frameListeners, entry ∈ registry.objects)
    (sites : List (Site V)) :
    ∀ entry ∈ (registry.enrol sites).frameListeners,
      entry ∈ (registry.enrol sites).objects := by
  intro entry member
  rcases List.mem_append.mp member with old | new
  · exact List.mem_append_left _ (listed entry old)
  · have subset : (sites.filter Site.listens).map Site.entry ⊆ sites.map Site.entry :=
      List.map_subset _ (List.filter_subset_self sites)
    exact List.mem_append_right _ (subset new)

end Registry

theorem Site.IsNamed.mono {site : Site V} {earlier later sooner further : Nat}
    (named : site.IsNamed earlier later) (sooner_le : sooner ≤ earlier)
    (le_further : later ≤ further) : site.IsNamed sooner further := by
  unfold Site.IsNamed at named ⊢
  cases given : site.plan.id? with
  | some id =>
      rw [given] at named
      exact named
  | none =>
      rw [given] at named
      obtain ⟨number, above, below, isId⟩ := named
      exact ⟨number, sooner_le.trans_lt above, below.trans le_further, isId⟩

namespace World

variable {place : Nat} {context : Context V} {world middle later final : World V}
  {classes : Table (ObjectClass V)} {plan : Blueprint V}

theorem freshId_injective : Function.Injective freshId := by
  intro left right same
  have texts : intText left = intText right := by
    simpa [freshId] using same
  exact intText_natCast_injective texts

/-! ## Nothing outside changes -/

namespace SameOutside

theorem refl (place : Nat) (world : World V) : world.SameOutside place world :=
  ⟨fun _ _ => rfl, rfl⟩

theorem trans (first : world.SameOutside place later) (second : later.SameOutside place final) :
    world.SameOutside place final := by
  refine ⟨fun other different =>
    (second.modules_eq other different).trans (first.modules_eq other different), ?_⟩
  have second_eq := second.rest_eq
  rw [first.rest_eq] at second_eq
  exact second_eq

end SameOutside

/-- Where nothing of the kind changes, objects, modules and contexts are left alone. -/
theorem Spares.of_eq (objects_eq : later.objects = world.objects)
    (objectIds_eq : later.objectIds = world.objectIds) (modules_eq : later.modules = world.modules)
    (contexts_eq : later.contexts = world.contexts) : world.Spares place later where
  size_le := by rw [objects_eq]
  object_eq := fun _ _ => by rw [object, objects_eq, object]
  objectIds_le := objectIds_eq.ge
  known := fun known => by rwa [modules_eq]
  module_eq := by rw [moduleOf, modules_eq, moduleOf]
  context_eq := by rw [World.context, contexts_eq, World.context]

theorem Spares.trans (first : world.Spares place middle) (second : middle.Spares place final) :
    world.Spares place final where
  size_le := first.size_le.trans second.size_le
  object_eq := fun handle there =>
    (second.object_eq handle (there.trans_le first.size_le)).trans
      (first.object_eq handle there)
  objectIds_le := first.objectIds_le.trans second.objectIds_le
  known := fun known => second.known (first.known known)
  module_eq := second.module_eq.trans first.module_eq
  context_eq := by
    have kept := second.context_eq
    rw [first.module_eq] at kept
    exact kept.trans first.context_eq

/-! ## Objects that were added -/

namespace Enrolled

variable {first second sites : List (Site V)}

theorem free_iff (enrolled : Enrolled place world sites final) (id : String) :
    (final.moduleOf place).registry.has id = false ↔
      (world.moduleOf place).registry.has id = false ∧ id ∉ sites.map Site.id := by
  rw [enrolled.module_eq]
  exact Registry.has_enrol _ _ id

theorem moduleContext_eq (enrolled : Enrolled place world sites final) :
    (final.moduleOf place).context = (world.moduleOf place).context := by
  rw [enrolled.module_eq]
  rfl

theorem trans (former : Enrolled place world first middle)
    (latter : Enrolled place middle second final) :
    Enrolled place world (first ++ second) final where
  objectIds_le := former.objectIds_le.trans latter.objectIds_le
  named := by
    intro site member
    rcases List.mem_append.mp member with isFirst | isSecond
    · exact (former.named site isFirst).mono (Nat.le_refl _) latter.objectIds_le
    · exact (latter.named site isSecond).mono former.objectIds_le (Nat.le_refl _)
  ids_nodup := by
    rw [List.map_append]
    refine List.nodup_append.mpr ⟨former.ids_nodup, latter.ids_nodup, ?_⟩
    rintro id isFirst _ isSecond rfl
    obtain ⟨site, member, rfl⟩ := List.mem_map.mp isSecond
    exact ((former.free_iff site.id).mp (latter.ids_free site member)).2 isFirst
  ids_free := by
    intro site member
    rcases List.mem_append.mp member with isFirst | isSecond
    · exact former.ids_free site isFirst
    · exact ((former.free_iff site.id).mp (latter.ids_free site isSecond)).1
  known := latter.known
  module_eq := by
    rw [latter.module_eq, former.module_eq, Module.enrol, Module.enrol, Module.enrol,
      Registry.enrol_append]
  context_eq := by
    have kept := latter.context_eq
    rw [former.moduleContext_eq] at kept
    exact kept.trans former.context_eq

/-- A change that spares the module adds nothing. -/
theorem of_spares (known : place < world.modules.size) (spares : world.Spares place final) :
    Enrolled place world [] final where
  objectIds_le := spares.objectIds_le
  named := fun _ member => absurd member List.not_mem_nil
  ids_nodup := .nil
  ids_free := fun _ member => absurd member List.not_mem_nil
  known := spares.known known
  module_eq := by rw [spares.module_eq, Module.enrol, Registry.enrol_nil]
  context_eq := spares.context_eq

/-- The id of an added object was given by a descriptor or generated in the meantime. -/
theorem given_or_fresh (enrolled : Enrolled place world sites final) :
    ∀ id ∈ sites.map Site.id, id ∈ (sites.map Site.plan).filterMap Blueprint.id? ∨
      ∃ number, world.objectIds < number ∧ number ≤ final.objectIds ∧ id = freshId number := by
  intro id member
  obtain ⟨site, siteMember, rfl⟩ := List.mem_map.mp member
  have named := enrolled.named site siteMember
  unfold Site.IsNamed at named
  cases given : site.plan.id? with
  | some id =>
      rw [given] at named
      rw [named]
      exact .inl (List.mem_filterMap.mpr ⟨site.plan, List.mem_map_of_mem siteMember, given⟩)
  | none =>
      rw [given] at named
      exact .inr named

/-- No id of an added object is one of those that are still to be given. -/
theorem not_mem_ids {others : List String}
    (enrolled : Enrolled place world sites final)
    (awaits : Awaits place ((sites.map Site.plan).filterMap Blueprint.id? ++ others) world) :
    ∀ id ∈ others, id ∉ sites.map Site.id := by
  intro id member isNew
  rcases enrolled.given_or_fresh id isNew with isGiven | ⟨number, above, -, rfl⟩
  · exact (List.nodup_append.mp awaits.ids_nodup).2.2 id isGiven id member rfl
  · exact (awaits.fresh_free number above).2 (List.mem_append_right _ member)

/-- No id of an added object is one of those that are still to be generated. -/
theorem freshId_not_mem {others : List String}
    (enrolled : Enrolled place world sites final)
    (awaits : Awaits place ((sites.map Site.plan).filterMap Blueprint.id? ++ others) world) :
    ∀ number, final.objectIds < number → freshId number ∉ sites.map Site.id := by
  intro number above isNew
  rcases enrolled.given_or_fresh _ isNew with isGiven | ⟨sooner, -, le, isFresh⟩
  · have fresh := awaits.fresh_free number (enrolled.objectIds_le.trans_lt above)
    exact fresh.2 (List.mem_append_left _ isGiven)
  · have same : number = sooner := freshId_injective isFresh
    exact absurd above (Nat.not_lt.mpr (same ▸ le))

/-- The ids that are left are as free as before. -/
theorem awaits {others : List String} (enrolled : Enrolled place world sites final)
    (awaits : Awaits place ((sites.map Site.plan).filterMap Blueprint.id? ++ others) world) :
    Awaits place others final where
  known := enrolled.known
  listed := by
    rw [enrolled.module_eq]
    exact Registry.enrol_listed awaits.listed _
  ids_nodup := (List.nodup_append.mp awaits.ids_nodup).2.1
  ids_free := fun id member => (enrolled.free_iff id).mpr
    ⟨awaits.ids_free id (List.mem_append_right _ member),
      enrolled.not_mem_ids awaits id member⟩
  fresh_free := fun number above => by
    have fresh := awaits.fresh_free number (enrolled.objectIds_le.trans_lt above)
    have notNew := enrolled.freshId_not_mem awaits number above
    exact ⟨(enrolled.free_iff _).mpr ⟨fresh.1, notNew⟩, fun member =>
      fresh.2 (List.mem_append_right _ member)⟩

theorem offers (enrolled : Enrolled place world sites final)
    (offers : Offers place classes context world) : Offers place classes context final where
  classes_eq := by
    rw [enrolled.module_eq]
    exact offers.classes_eq
  context_eq := by
    rw [enrolled.moduleContext_eq, enrolled.context_eq]
    exact offers.context_eq

end Enrolled

/-! ## One object -/

/-- An object was built and registered, and nothing else happened. -/
structure Entered (place : Nat) (context : Context V) (world : World V) (site : Site V)
    (entered : World V) : Prop where
  handle_eq : site.handle = world.objects.size
  objects_eq : entered.objects = world.objects.push (site.object context none [])
  enrolled : Enrolled place world [site] entered
  same : world.SameOutside place entered

/-- The object of a descriptor below which the defaults of its class were laid. -/
theorem ofDescriptor_update (fits : plan.Fits classes) (handle : Nat) (fresh : String)
    (context : Context V) :
    RuntimeObject.ofDescriptor plan.kind (Entries.update plan.kind.defaults plan.given) fresh
        context.verbs (some context.hub) =
      .ok (Site.object ⟨handle, plan.id?.getD fresh, plan⟩ context none []) := by
  refine ofDescriptor_eq_ok_iff.mpr ⟨_, _, _,
    fits.entryText_update (by decide) fits.id_writable fresh,
    fits.entryText_update (by decide) fits.type_writable RuntimeObject.defaultType,
    fits.entryText_update (by decide) fits.name_writable _, ?_⟩
  rw [fits.dataOf_update]
  rfl

/-- The object that is built next for a blueprint. -/
def nextSite (world : World V) (plan : Blueprint V) : Site V :=
  ⟨world.objects.size, plan.id?.getD (freshId (world.objectIds + 1)), plan⟩

theorem construct_run (fits : plan.Fits classes) (context : Context V) (world : World V) :
    (construct plan.kind (Entries.update plan.kind.defaults plan.given) context.verbs
        (some context.hub)).run world =
      .ok world.objects.size
        { world with
          objects := world.objects.push ((world.nextSite plan).object context none [])
          objectIds := if plan.id?.isSome then world.objectIds else world.objectIds + 1 } := by
  unfold construct
  rw [run_bind_ok (EStateM.run_get world)]
  simp only
  rw [ofDescriptor_update fits world.objects.size, fits.properValue?_update (by decide)]
  simp only [Blueprint.id?, Blueprint.text?, Option.isSome_map]
  rfl

/-- Under a free id an object is registered without a warning. -/
theorem addObject_run_of_free {handle : Nat}
    (free : (world.moduleOf place).registry.has (world.object handle).id = false) :
    (addObject place handle).run world =
      .ok () (after
        (Effect.updateRegistry place fun registry =>
          registry.add (world.object handle).id handle (world.object handle).listensToFrames)
        world) := by
  unfold addObject
  rw [run_bind_ok (EStateM.run_get world)]
  simp only [free, Bool.false_eq_true, if_false]
  rfl

theorem nextSite_isNamed (world : World V) (plan : Blueprint V) :
    (world.nextSite plan).IsNamed world.objectIds
      (if plan.id?.isSome then world.objectIds else world.objectIds + 1) := by
  have plan_eq : (world.nextSite plan).plan = plan := rfl
  rw [Site.IsNamed, plan_eq]
  cases given : plan.id? with
  | some id => simp [nextSite, given]
  | none => exact ⟨world.objectIds + 1, Nat.lt_succ_self _, by simp, by simp [nextSite, given]⟩

theorem Awaits.nextSite_free {ids : List String} (awaits : Awaits place ids world)
    (own : ∀ id, plan.id? = some id → id ∈ ids) :
    (world.moduleOf place).registry.has (world.nextSite plan).id = false := by
  cases given : plan.id? with
  | some id =>
      have isId : (world.nextSite plan).id = id := by simp [nextSite, given]
      rw [isId]
      exact awaits.ids_free id (own id given)
  | none =>
      have isFresh : (world.nextSite plan).id = freshId (world.objectIds + 1) := by
        simp [nextSite, given]
      rw [isFresh]
      exact (awaits.fresh_free _ (Nat.lt_succ_self _)).1

theorem enter_entered {ids : List String} (awaits : Awaits place ids world)
    (fits : plan.Fits classes) (own : ∀ id, plan.id? = some id → id ∈ ids)
    (context : Context V) :
    ∃ entered,
      (enter place plan.kind (Entries.update plan.kind.defaults plan.given) context.verbs
          (some context.hub)).run world = .ok world.objects.size entered ∧
        Entered place context world (world.nextSite plan) entered := by
  let site := world.nextSite plan
  let constructed : World V :=
    { world with
      objects := world.objects.push (site.object context none [])
      objectIds := if plan.id?.isSome then world.objectIds else world.objectIds + 1 }
  have object_eq : constructed.object world.objects.size = site.object context none [] := by
    rw [object_of_push rfl, if_pos rfl]
  have free : (world.moduleOf place).registry.has site.id = false := awaits.nextSite_free own
  have ranAdd := @addObject_run_of_free V place constructed world.objects.size
    (by rw [object_eq]; exact free)
  rw [object_eq] at ranAdd
  refine ⟨_, (run_bind_ok (construct_run fits context world)).trans (run_bind_ok ranAdd), ?_⟩
  refine ⟨rfl, rfl, ⟨?_, ?_, ?_, ?_, ?_, ?_, rfl⟩, ?_, rfl⟩
  · change world.objectIds ≤ if plan.id?.isSome then world.objectIds else world.objectIds + 1
    split <;> omega
  · intro other isSite
    rw [List.mem_singleton.mp isSite]
    exact nextSite_isNamed world plan
  · exact List.nodup_singleton _
  · intro other isSite
    rw [List.mem_singleton.mp isSite]
    exact free
  · exact awaits.known.trans_eq Array.size_modify.symm
  · rw [moduleOf_updateRegistry, if_pos ⟨rfl, awaits.known⟩, Module.enrol,
      ← Registry.add_eq_enrol awaits.listed site free]
    rfl
  · intro other different
    rw [moduleOf_updateRegistry, if_neg fun both => different both.1]
    rfl

namespace Entered

variable {site : Site V} {entered : World V}

theorem object_eq (entering : Entered place context world site entered) (handle : Nat) :
    entered.object handle =
      if handle = site.handle then site.object context none [] else world.object handle := by
  rw [object_of_push entering.objects_eq, entering.handle_eq]

theorem size_eq (entering : Entered place context world site entered) :
    entered.objects.size = world.objects.size + 1 := by
  rw [entering.objects_eq, Array.size_push]

theorem there (entering : Entered place context world site entered) :
    site.handle < entered.objects.size := by
  rw [entering.size_eq, entering.handle_eq]
  exact Nat.lt_succ_self _

/-- The objects that were there before are older. -/
theorem object_eq_of_lt (entering : Entered place context world site entered) {handle : Nat}
    (older : handle < world.objects.size) :
    handle ≠ site.handle ∧ handle < entered.objects.size ∧
      entered.object handle = world.object handle := by
  have notSite : handle ≠ site.handle := by
    rw [entering.handle_eq]
    exact older.ne
  refine ⟨notSite, ?_, ?_⟩
  · rw [entering.size_eq]
    exact older.trans (Nat.lt_succ_self _)
  · rw [entering.object_eq, if_neg notSite]

end Entered

end World

end CommandHost
