import CommandHost.Proofs.Object.Faithful
import CommandHost.Proofs.Object.Replacement

/-!
# What a removal clears away

Removing an id disposes the object that is registered under it, and what is below this
object, takes these objects off the registry, and releases their listeners.  `Cleared`
says of the whole world that this and nothing else happens: every part of the world is
either named there or as it was.

The trees and the registry are followed as scenes.  `Swept` and `Reformed` follow the
rest, through the steps of a disposal: listeners go with the objects that are disposed,
and otherwise only links, one registry and the journal change.
-/

namespace CommandHost

variable {V : Vocabulary}

/-- A disposed object. -/
def RuntimeObject.retired (object : RuntimeObject V) : RuntimeObject V :=
  { object with children := [], parent := none, disposed := true }

namespace World

variable {origin world later : World V} {place top : Nat} {gone : List Nat}

/-- An object is another one or one of its descendants, by the lists of children. -/
def Under (world : World V) (top : Nat) : Nat → Prop :=
  Relation.ReflTransGen (fun parent child => child ∈ (world.object parent).children) top

/-- A world without some objects, which all stand below one of them, is otherwise as it
was. -/
structure Cleared (place top : Nat) (gone : List Nat) (world later : World V) : Prop where
  retired : ∀ handle ∈ gone, later.object handle = (world.object handle).retired
  parent_eq : ∀ handle ∉ gone, (world.object top).parent = some handle →
    later.object handle =
      { world.object handle with children := (world.object handle).children.erase top }
  others_eq : ∀ handle ∉ gone, (world.object top).parent ≠ some handle →
    later.object handle = world.object handle
  module_eq : later.moduleOf place =
    { world.moduleOf place with registry := (world.moduleOf place).registry.without gone }
  modules_eq : ∀ other, other ≠ place → later.moduleOf other = world.moduleOf other
  hub_eq : ∀ hub, later.hub hub =
    { world.hub hub with
      bus := (world.hub hub).bus.keep fun listener => !listener.isOwnedBy (· ∈ gone) }
  listenersOf_eq : ∀ hub event, (later.hub hub).bus.listenersOf event =
    ((world.hub hub).bus.listenersOf event).filter fun listener =>
      !listener.isOwnedBy (· ∈ gone)
  sizes_eq : later.objects.size = world.objects.size ∧ later.hubs.size = world.hubs.size ∧
    later.modules.size = world.modules.size
  rest_eq : later =
    { world with
      objects := later.objects
      hubs := later.hubs
      modules := later.modules
      journal := later.journal }

/-! ## What a disposal cannot change -/

/-- A change of links, of one registry, of buses, and of the journal. -/
structure Reformed (place : Nat) (origin world : World V) : Prop where
  object_relinked : ∀ handle, (origin.object handle).Relinked (world.object handle)
  module_eq : world.moduleOf place =
    { origin.moduleOf place with registry := (world.moduleOf place).registry }
  modules_eq : ∀ other, other ≠ place → world.moduleOf other = origin.moduleOf other
  hub_eq : ∀ hub, world.hub hub = { origin.hub hub with bus := (world.hub hub).bus }
  sizes_eq : world.objects.size = origin.objects.size ∧ world.hubs.size = origin.hubs.size ∧
    world.modules.size = origin.modules.size
  rest_eq : world =
    { origin with
      objects := world.objects
      hubs := world.hubs
      modules := world.modules
      journal := world.journal }

theorem Reformed.refl (place : Nat) (world : World V) : Reformed place world world :=
  ⟨fun _ => rfl, rfl, fun _ _ => rfl, fun _ => rfl, ⟨rfl, rfl, rfl⟩, rfl⟩

theorem moduleOf_updateRegistry (world : World V) (place other : Nat)
    (change : Registry → Registry) :
    (after (Effect.updateRegistry place change) world).moduleOf other =
      if other = place ∧ other < world.modules.size then
        { world.moduleOf other with registry := change (world.moduleOf other).registry }
      else world.moduleOf other := by
  change (World.mk _ _ _ (world.modules.modify place fun found =>
    { found with registry := change found.registry }) ..).moduleOf other = _
  by_cases there : other < world.modules.size
  · by_cases same : other = place
    · subst same
      simp [moduleOf, Array.getD, there, Array.getElem_modify_self]
    · simp [moduleOf, Array.getD, there, same, Array.getElem_modify_of_ne (Ne.symm same)]
  · simp [moduleOf, Array.getD, there]

theorem upheld_reformed (place : Nat) (origin : World V) :
    Upheld place (Reformed place origin) where
  log record world reformed :=
    { reformed with
      rest_eq := congrArg (fun world : World V =>
        { world with journal := world.journal.push (.log record) }) reformed.rest_eq }
  relink handle change relinked world reformed := by
    refine { reformed with object_relinked := ?_, sizes_eq := ?_, rest_eq := ?_ }
    · intro other
      rw [object_updateObject]
      by_cases same : other = handle ∧ other < world.objects.size
      · rw [if_pos same, RuntimeObject.Relinked, relinked (world.object other),
          reformed.object_relinked other]
      · rw [if_neg same]
        exact reformed.object_relinked other
    · refine ⟨?_, reformed.sizes_eq.2⟩
      exact Array.size_modify.trans reformed.sizes_eq.1
    · exact congrArg (fun middle : World V =>
        { middle with objects := world.objects.modify handle change }) reformed.rest_eq
  registry change world reformed := by
    refine { reformed with module_eq := ?_, modules_eq := ?_, sizes_eq := ?_, rest_eq := ?_ }
    · rw [moduleOf_updateRegistry]
      by_cases same : place = place ∧ place < world.modules.size
      · rw [if_pos same, reformed.module_eq]
      · rw [if_neg same]
        exact reformed.module_eq
    · intro other different
      rw [moduleOf_updateRegistry, if_neg fun both => different both.1]
      exact reformed.modules_eq other different
    · refine ⟨reformed.sizes_eq.1, reformed.sizes_eq.2.1, ?_⟩
      exact Array.size_modify.trans reformed.sizes_eq.2.2
    · exact congrArg (fun middle : World V =>
        { middle with modules := world.modules.modify place fun found =>
          { found with registry := change found.registry } }) reformed.rest_eq
  releaseOwner hub owner world reformed := by
    obtain ⟨final, ran, rebused⟩ := releaseOwner_rebused world hub owner
    rw [after_of_ok ran]
    have same := rebused.sameStock
    refine ⟨?_, ?_, ?_, ?_, ?_, ?_⟩
    · intro handle
      rw [same.object_eq]
      exact reformed.object_relinked handle
    · simp only [moduleOf, same.modules_eq]
      exact reformed.module_eq
    · simp only [moduleOf, same.modules_eq]
      exact reformed.modules_eq
    · intro other
      rw [rebused.hub_eq]
      by_cases isHub : other = hub
      · rw [if_pos isHub, reformed.hub_eq]
      · rw [if_neg isHub]
        exact reformed.hub_eq other
    · rw [same.objects_eq, rebused.size_eq, same.modules_eq]
      exact reformed.sizes_eq
    · rw [rebused.rest_eq]
      exact congrArg (fun middle : World V =>
        { middle with hubs := final.hubs, journal := final.journal }) reformed.rest_eq

/-! ## Listeners go with their owners -/

/-- An object is disposed now and was not before. -/
def wasDisposed (origin world : World V) (handle : Nat) : Bool :=
  (world.object handle).disposed && !(origin.object handle).disposed

/-- Exactly the listeners of the objects that were disposed are gone, and children may
have been taken off lists. -/
structure Swept (origin world : World V) : Prop where
  faithful : world.Faithful 0
  size_eq : world.objects.size = origin.objects.size
  bus_eq : ∀ hub, (world.hub hub).bus =
    (origin.hub hub).bus.keep fun listener => !listener.isOwnedBy (wasDisposed origin world)
  child_before : ∀ parent, ∀ child ∈ (world.object parent).children,
    child ∈ (origin.object parent).children

/-- Where nobody was disposed, nobody lost listeners. -/
theorem Swept.refl (faithful : origin.Faithful 0) : Swept origin origin where
  faithful := faithful
  size_eq := rfl
  bus_eq hub := by
    obtain ⟨ledger, mirrors, -⟩ := faithful hub
    refine (mirrors.keep_eq_self fun listener _ => ?_).symm
    simp [Listener.isOwnedBy, wasDisposed, Option.any_eq_false]
  child_before _ _ member := member

/-- Objects lose at most children, and only some are disposed besides. -/
structure Pruned (disposed : Nat → Bool) (world later : World V) : Prop where
  size_eq : later.objects.size = world.objects.size
  hubs_eq : later.hubs = world.hubs
  disposed_eq : ∀ other, (later.object other).disposed =
    (disposed other || (world.object other).disposed)
  child_before : ∀ parent, ∀ child ∈ (later.object parent).children,
    child ∈ (world.object parent).children

theorem detach_pruned (world : World V) (handle : Nat) :
    ∃ final,
      (detach handle).run world = .ok () final ∧ Pruned (fun _ => false) world final := by
  unfold detach
  rw [run_bind_ok (EStateM.run_get world)]
  cases (world.object handle).parent with
  | none => exact ⟨world, rfl, rfl, rfl, fun _ => rfl, fun _ _ member => member⟩
  | some parent =>
      let takesOff : RuntimeObject V → RuntimeObject V := fun object =>
        { object with children := object.children.erase handle }
      have object_eq := fun other => object_updateObject world parent other takesOff
      refine ⟨after (Effect.updateObject parent takesOff) world, rfl, Array.size_modify, rfl,
        fun other => ?_, fun other child member => ?_⟩
      · rw [object_eq, Bool.false_or]
        by_cases same : other = parent ∧ other < world.objects.size
        · rw [if_pos same]
        · rw [if_neg same]
      · rw [object_eq] at member
        by_cases same : other = parent ∧ other < world.objects.size
        · rw [if_pos same] at member
          exact List.mem_of_mem_erase member
        · rw [if_neg same] at member
          exact member

/-- Taking an object out of its tree concerns the objects only. -/
theorem unlink_pruned (world : World V) {handle : Nat} (there : handle < world.objects.size) :
    Pruned (· == handle) world
      (after
        (do
          detach handle
          Effect.updateObject handle fun object =>
            { object with children := [], parent := none, disposed := true } :
          Effect V Unit) world) := by
  obtain ⟨detached, ran, pruned⟩ := detach_pruned world handle
  rw [after_bind_ok ran]
  have object_eq (other : Nat) :
      (after (Effect.updateObject handle RuntimeObject.retired) detached).object other =
        if other = handle then (detached.object other).retired else detached.object other := by
    rw [object_updateObject, pruned.size_eq]
    by_cases isHandle : other = handle
    · rw [if_pos ⟨isHandle, isHandle ▸ there⟩, if_pos isHandle]
    · rw [if_neg fun both => isHandle both.1, if_neg isHandle]
  change Pruned _ world (after (Effect.updateObject handle RuntimeObject.retired) detached)
  refine ⟨Array.size_modify.trans pruned.size_eq, pruned.hubs_eq, fun other => ?_,
    fun parent child member => ?_⟩
  · rw [object_eq]
    by_cases isHandle : other = handle
    · simp [isHandle, RuntimeObject.retired]
    · rw [if_neg isHandle, pruned.disposed_eq, beq_eq_false_iff_ne.mpr isHandle]
  · rw [object_eq] at member
    by_cases isHandle : parent = handle
    · simp [isHandle, RuntimeObject.retired] at member
    · rw [if_neg isHandle] at member
      exact pruned.child_before parent child member

theorem retire_swept {handle : Nat} (inUse : origin.InUse handle) :
    Keeps (Swept origin) (retire handle) := by
  intro world swept
  obtain ⟨released, retire_eq, same, -, bus_eq⟩ := retire_after swept.faithful (Nat.zero_le handle)
  have there : handle < released.objects.size := by
    rw [same.objects_eq, swept.size_eq]
    exact inUse.1
  have pruned := unlink_pruned released there
  have faithful := (upheld_faithful 0 0).maintained.retire handle world swept.faithful
  rw [retire_eq] at faithful ⊢
  generalize after _ released = final at pruned faithful ⊢
  refine ⟨faithful, ?_, fun hub => ?_, fun parent child member => ?_⟩
  · rw [pruned.size_eq, same.objects_eq, swept.size_eq]
  · rw [World.hub, pruned.hubs_eq, ← World.hub, bus_eq, swept.bus_eq, Bus.keep_keep]
    refine Bus.keep_congr fun listener _ => ?_
    have disposed_now (other : Nat) : wasDisposed origin final other =
        (wasDisposed origin world other || other == handle) := by
      rw [wasDisposed, wasDisposed, pruned.disposed_eq, same.object_eq]
      by_cases isHandle : other = handle
      · simp [isHandle, inUse.2]
      · simp [beq_eq_false_iff_ne.mpr isHandle]
    unfold Listener.isOwnedBy
    cases listener.object? with
    | none => rfl
    | some owner => simp [disposed_now]
  · have before := pruned.child_before parent child member
    rw [same.object_eq] at before
    exact swept.child_before parent child before

theorem disposeWithin_swept
    (childInUse : ∀ parent, ∀ child ∈ (origin.object parent).children, origin.InUse child)
    (depth : Nat) {handle : Nat} (inUse : origin.InUse handle) :
    Keeps (Swept origin) (disposeWithin depth handle) := by
  induction depth generalizing handle with
  | zero => exact .throw _
  | succ depth inductionHypothesis =>
      apply Keeps.look
      intro world swept
      have disposesChildren : Keeps (Swept origin)
          ((world.object handle).children.forM (disposeWithin depth)) :=
        .forM_mem fun child member =>
          inductionHypothesis (childInUse handle child (swept.child_before handle child member))
      exact Keeps.bind disposesChildren (fun _ => retire_swept inUse) world swept

theorem discard_swept (place : Nat)
    (childInUse : ∀ parent, ∀ child ∈ (origin.object parent).children, origin.InUse child)
    {handle : Nat} (inUse : origin.InUse handle) :
    Keeps (Swept origin) (discard place handle) := by
  have disposes : Keeps (Swept origin) (dispose handle) :=
    .look fun world swept =>
      disposeWithin_swept childInUse world.depthBound inUse world swept
  have takesOff (taken : Nat) : Keeps (Swept origin) (removeOwn place taken) :=
    .look fun world swept =>
      ⟨(upheld_faithful place 0).registry _ world swept.faithful, swept.size_eq,
        swept.bus_eq, swept.child_before⟩
  exact .look fun world swept => Keeps.bind (.ofUse _)
    (fun _ => .bind disposes fun _ => .forM takesOff) world swept

/-! ## Discarding and removing -/

theorem under_iff_below (forest : (world.scene place).Forest 0) {handle : Nat} :
    world.Under top handle ↔ (world.scene place).Below top handle := by
  have sameStep : (fun parent child => child ∈ (world.object parent).children) =
      fun parent child => (world.scene place).parentOf child = some parent := by
    funext parent child
    exact propext (forest.mem_children_iff parent child (.inl (Nat.zero_le _)))
  rw [Under, sameStep, Scene.Below]

/-- Objects that have a parent are in use. -/
theorem inUse_of_parent (forest : (world.scene place).Forest 0) {parent child : Nat}
    (below : (world.scene place).parentOf child = some parent) : world.InUse child := by
  refine ⟨forest.lt_count below, ?_⟩
  cases disposed : (world.object child).disposed with
  | false => rfl
  | true =>
      have alone := forest.disposed_isAlone child (Nat.zero_le _) disposed
      rw [Scene.parentOf, alone.1] at below
      cases below

theorem inUse_of_below (forest : (world.scene place).Forest 0) (inUse : world.InUse top)
    {handle : Nat} (below : (world.scene place).Below top handle) : world.InUse handle := by
  rcases Relation.ReflTransGen.cases_tail below with isTop | ⟨parent, -, step⟩
  · exact isTop ▸ inUse
  · exact inUse_of_parent forest step

/-- Of the lists of children of the objects that stay, one loses the topmost object that
goes. -/
theorem childrenOf_kept (forest : (world.scene place).Forest 0)
    (isBelow : ∀ other, other ∈ gone ↔ (world.scene place).Below top other) {handle : Nat}
    (kept : handle ∉ gone) :
    ((world.scene place).childrenOf handle).filter (· ∉ gone) =
      ((world.scene place).childrenOf handle).erase top := by
  have distinct := forest.children_nodup handle (Nat.zero_le _)
  rw [distinct.erase_eq_filter]
  refine List.filter_congr fun child member => ?_
  have link := (forest.mem_children_iff handle child (.inl (Nat.zero_le _))).mp member
  have isGone : child ∈ gone ↔ child = top := by
    rw [isBelow]
    constructor
    · intro below
      rcases Relation.ReflTransGen.cases_tail below with isTop | ⟨parent, reaches, step⟩
      · exact isTop
      · have sameParent : handle = parent := Option.some.inj (link.symm.trans step)
        exact absurd ((isBelow handle).mpr (sameParent ▸ reaches)) kept
    · rintro rfl
      exact .refl
  rw [Bool.eq_iff_iff]
  simp [isGone]

/-- What is left of an object, when it is known what the discarding does to links. -/
theorem Reformed.object_eq (reformed : Reformed place world later)
    (scene_eq : later.scene place = (world.scene place).discard gone) (handle : Nat) :
    later.object handle =
      { world.object handle with
        parent := if handle ∈ gone then none else (world.object handle).parent
        children :=
          if handle ∈ gone then [] else (world.object handle).children.filter (· ∉ gone)
        disposed := decide (handle ∈ gone) || (world.object handle).disposed } := by
  have relinked : later.object handle = _ := reformed.object_relinked handle
  have links : (later.object handle).node = ((world.scene place).retireAll gone).node handle :=
    congrArg (fun scene => Scene.node scene handle) scene_eq
  simp only [Scene.retireAll_node, RuntimeObject.node, Node.mk.injEq] at links
  rw [relinked, links.2.2.1, links.2.2.2.1, links.2.2.2.2]
  rfl

/-- The listeners of the objects that were discarded are gone. -/
theorem Swept.bus_keep (swept : Swept world later)
    (inUse : ∀ handle ∈ gone, (world.object handle).disposed = false)
    (disposed_eq : ∀ handle, (later.object handle).disposed =
      (decide (handle ∈ gone) || (world.object handle).disposed)) (hub : Nat) :
    (later.hub hub).bus =
      (world.hub hub).bus.keep fun listener => !listener.isOwnedBy (· ∈ gone) := by
  have test_eq : wasDisposed world later = fun handle => decide (handle ∈ gone) := by
    funext handle
    rw [wasDisposed, disposed_eq]
    by_cases member : handle ∈ gone
    · simp [member, inUse handle member]
    · simp [member]
  rw [swept.bus_eq, test_eq]

theorem discard_cleared (sound : (world.scene place).Sound 0)
    (known : place < world.modules.size) (faithful : world.Faithful 0)
    (inUse : world.InUse top) :
    ∃ final gone,
      (discard place top).run world = .ok () final ∧
        (∀ handle, handle ∈ gone ↔ world.Under top handle) ∧
          Cleared place top gone world final := by
  obtain ⟨final, gone, ran, finalScene, isBelow⟩ :=
    discard_scene sound.forest sound.keyed known (Nat.zero_le top) inUse.1
  have reformed := (upheld_reformed place world).maintained.discard top world (.refl place world)
  have swept := discard_swept place
    (fun parent child member => inUse_of_parent sound.forest
      ((sound.forest.mem_children_iff parent child (.inl (Nat.zero_le _))).mp member))
    inUse world (.refl faithful)
  rw [after_of_ok ran] at reformed swept
  have object_eq := reformed.object_eq finalScene
  have goneInUse (handle : Nat) (member : handle ∈ gone) :
      (world.object handle).disposed = false :=
    (inUse_of_below sound.forest inUse ((isBelow handle).mp member)).2
  have kept_eq (handle : Nat) (kept : handle ∉ gone) : final.object handle =
      { world.object handle with children := (world.object handle).children.erase top } := by
    have erased : (world.object handle).children.filter (· ∉ gone) =
        (world.object handle).children.erase top :=
      childrenOf_kept sound.forest isBelow kept
    rw [object_eq, if_neg kept, if_neg kept, decide_eq_false kept, Bool.false_or, erased]
  have bus_eq := swept.bus_keep goneInUse fun handle => by rw [object_eq]
  have registry_eq : (final.moduleOf place).registry =
      (world.moduleOf place).registry.without gone :=
    congrArg Scene.registry finalScene
  refine ⟨final, gone, ran, fun handle => (isBelow handle).trans
    (under_iff_below sound.forest).symm, ?_, ?_, ?_, ?_, reformed.modules_eq, ?_, ?_,
    reformed.sizes_eq, reformed.rest_eq⟩
  · intro handle member
    simp only [object_eq, member, if_true, decide_true, Bool.true_or]
    rfl
  · intro handle kept _
    exact kept_eq handle kept
  · intro handle kept notParent
    have notChild : top ∉ (world.object handle).children := fun member =>
      notParent ((sound.forest.mem_children_iff handle top (.inl (Nat.zero_le _))).mp member)
    rw [kept_eq handle kept, List.erase_of_not_mem notChild]
  · rw [reformed.module_eq, registry_eq]
  · intro hub
    rw [reformed.hub_eq, bus_eq]
  · intro hub event
    obtain ⟨ledger, mirrors, -⟩ := faithful hub
    rw [bus_eq, (mirrors.keep _).listenersOf_eq, mirrors.listenersOf_eq]
    simp only [Ledger.ofEvent, List.filter_filter, Bool.and_comm]

theorem Cleared.log (cleared : Cleared place top gone world later) (asked : Bool)
    (record : LogRecord) :
    Cleared place top gone world
      (after (if asked then Effect.log record else pure () : Effect V Unit) later) := by
  cases asked
  · exact cleared
  · exact
      { cleared with
        rest_eq := congrArg (fun later : World V =>
          { later with journal := later.journal.push (.log record) }) cleared.rest_eq }

theorem log_if_run (asked : Bool) (record : LogRecord) (world : World V) :
    (if asked then Effect.log record else pure () : Effect V Unit).run world =
      .ok () (after (if asked then Effect.log record else pure () : Effect V Unit) world) := by
  cases asked <;> rfl

/-- Removing an id under which nothing is registered changes nothing.  Otherwise exactly
the registered object and its descendants are disposed, and they take their registrations
and their listeners with them. -/
theorem Attended.remove_clears {host : Host V} (attentive : host.Attentive place)
    (attended : Attended host place world) (id : String) :
    ((world.moduleOf place).registry.get? id = none →
        (remove place id).run world = .ok () world) ∧
      ∀ top, (world.moduleOf place).registry.get? id = some top →
        ∃ final gone,
          (remove place id).run world = .ok () final ∧
            (∀ handle, handle ∈ gone ↔ world.Under top handle) ∧
              Cleared place top gone world final := by
  refine ⟨remove_of_absent, fun top present => ?_⟩
  obtain ⟨sound, known⟩ := attended.populated.sound attentive.quiet
  have member : (id, top) ∈ (world.scene place).registry.objects :=
    (Table.mem_iff_get? sound.keyed.keys_nodup).mpr present
  have inUse : world.InUse top :=
    ⟨sound.keyed.lt_count _ member, sound.lively _ member (Nat.zero_le _)⟩
  obtain ⟨discarded, gone, ran, isUnder, cleared⟩ :=
    discard_cleared sound known (attended.faithful attentive) inUse
  refine ⟨_, gone, ?_, isUnder, cleared.log
    (world.context (world.moduleOf place).context).config.logRemoveObject
    (.plain .info ("Module " ++ (world.moduleOf place).name ++ " removed object " ++ id))⟩
  unfold remove
  rw [run_bind_ok (EStateM.run_get world)]
  simp only [present]
  rw [run_bind_ok ran]
  exact log_if_run _ _ discarded

end World

/-! ## Bells of the same name -/

theorem wakeful_attentive (place : Nat) : wakeful.Attentive place where
  quiet := (wakeful_listensOnly place).quiet
  faithful hook handle world faithful := by
    rw [wakeful_hook]
    exact @World.listenAs_faithful wakefulWords 0 handle "ring" () false world faithful

theorem hall_attended : World.Attended wakeful 0 hall := by
  have faithful : hall.Faithful 0 := by
    refine .of_empty fun hub => ?_
    by_cases isFirst : hub = 0
    · simp [hall, World.start, World.hub, Array.getD, isFirst, Hub.ofConfig]
    · simp [hall, World.start, World.hub, Array.getD, isFirst]
      rfl
  exact .new (by decide) rfl (fun _ => ⟨rfl, rfl⟩) faithful

/-- Bells of which the first listens although it is disposed. -/
def peal : World wakefulWords :=
  World.after (World.listenAs 0 "toll" () false)
    (World.after (World.create wakeful 0 (bell "r" [bell "a" [bell "b" []], bell "c" []]))
      (World.after (World.remove 0 "z")
        (World.after (World.create wakeful 0 (bell "z" [])) hall)))

/-- Another bell takes the name of one that has others above and beside it. -/
def carillon : World wakefulWords := World.after (World.create wakeful 0 (bell "b" [])) peal

/-- The bell of the same name as one below the removed bell stays registered, and the
disposed one keeps its listener. -/
theorem World.Attended.remove_clears_carillon :
    World.Attended wakeful 0 carillon ∧
      (carillon.moduleOf 0).registry.get? "z" = none ∧
        (World.remove 0 "z").run carillon = .ok () carillon ∧
          (carillon.moduleOf 0).registry.get? "a" = some 2 ∧
            ∃ final gone,
              (World.remove 0 "a").run carillon = .ok () final ∧
                (∀ handle, handle ∈ gone ↔ carillon.Under 2 handle) ∧
                  World.Cleared 0 2 gone carillon final ∧
                    (final.moduleOf 0).registry.objects = [("r", 1), ("c", 4), ("b", 5)] ∧
                      (final.object 1).children = [4] ∧
                        (final.hub 0).bus.index =
                          [("listener-4", "ring"), ("listener-5", "ring"),
                            ("listener-6", "toll"), ("listener-7", "ring")] := by
  have attended : World.Attended wakeful 0 carillon :=
    .created (.listened (.created (.removed (.created hall_attended _) "z") _) 0 _ _ _) _
  have absent : (carillon.moduleOf 0).registry.get? "z" = none := by decide +kernel
  have present : (carillon.moduleOf 0).registry.get? "a" = some 2 := by decide +kernel
  have unknown := World.Attended.remove_clears (wakeful_attentive 0) attended "z"
  have known := World.Attended.remove_clears (wakeful_attentive 0) attended "a"
  obtain ⟨final, gone, ran, isUnder, cleared⟩ := known.2 2 present
  refine ⟨attended, absent, unknown.1 absent, present, final, gone, ran, isUnder, cleared, ?_⟩
  rw [← World.after_of_ok ran]
  decide +kernel

end CommandHost
