import CommandHost.Proofs.Event.Effects
import CommandHost.World.Creation

/-!
# What the operations of the world do to objects

For the tree of objects and the registry of a module little of a world matters: how many
objects there are, for each one its id, whether it listens to frames and how it is
linked, and the registry itself.  `World.scene` is this part of a world.  Each operation
is a plain function on scenes, and a lemma for each operation of the world says that it
succeeds and which function it is.
-/

namespace CommandHost

variable {V : Vocabulary}

/-- What matters of one object. -/
structure Node where
  id : String
  listens : Bool
  parent : Option Nat
  children : List Nat
  disposed : Bool

/-- What matters of an object. -/
def RuntimeObject.node (object : RuntimeObject V) : Node :=
  ⟨object.id, object.listensToFrames, object.parent, object.children, object.disposed⟩

namespace Node

/-- A node without a parent and without children. -/
def IsAlone (node : Node) : Prop := node.parent = none ∧ node.children = []

/-- The node of a disposed object. -/
def retired (node : Node) : Node :=
  { node with parent := none, children := [], disposed := true }

/-- The node without some of its children. -/
def without (gone : List Nat) (node : Node) : Node :=
  { node with children := node.children.filter (· ∉ gone) }

theorem retired_isAlone (node : Node) : node.retired.IsAlone := ⟨rfl, rfl⟩

theorem without_eq_self {gone : List Nat} {node : Node}
    (absent : ∀ child ∈ node.children, child ∉ gone) : node.without gone = node := by
  have kept : node.children.filter (· ∉ gone) = node.children :=
    List.filter_eq_self.mpr fun child member => by simpa using absent child member
  rw [without, kept]

end Node

/-- The objects of a world and the registry of one of its modules. -/
structure Scene where
  /-- How many objects there are. -/
  count : Nat
  node : Nat → Node
  /-- Whether the module is there. -/
  known : Bool
  registry : Registry

namespace Scene

/-- The parent of an object. -/
def parentOf (scene : Scene) (handle : Nat) : Option Nat := (scene.node handle).parent

/-- The children of an object. -/
def childrenOf (scene : Scene) (handle : Nat) : List Nat := (scene.node handle).children

/-- The scene with a changed node. -/
def modify (scene : Scene) (handle : Nat) (change : Node → Node) : Scene :=
  { scene with
    node := fun other =>
      if other = handle then change (scene.node other) else scene.node other }

/-- The scene with a new object. -/
def push (scene : Scene) (node : Node) : Scene :=
  { scene.modify scene.count (fun _ => node) with count := scene.count + 1 }

/-- The scene after an object was registered. -/
def register (scene : Scene) (handle : Nat) : Scene :=
  { scene with
    registry :=
      scene.registry.add (scene.node handle).id handle (scene.node handle).listens }

/-- The scene after an object was hung below another one. -/
def append (scene : Scene) (parent child : Nat) : Scene :=
  (scene.modify child fun node => { node with parent := some parent }).modify parent
    fun node => { node with children := node.children ++ [child] }

/-- The scene after an object was taken off the list of its parent's children. -/
def detach (scene : Scene) (handle : Nat) : Scene :=
  match scene.parentOf handle with
  | none => scene
  | some parent =>
    scene.modify parent fun node => { node with children := node.children.erase handle }

/-- The scene after one object was disposed. -/
def retire (scene : Scene) (handle : Nat) : Scene :=
  (scene.detach handle).modify handle Node.retired

/-- The scene after an object was taken off the registry. -/
def removeOwn (scene : Scene) (handle : Nat) : Scene :=
  { scene with registry := scene.registry.removeOwn (scene.node handle).id handle }

/-! ### Appending -/

variable (scene : Scene) (parent child handle : Nat)

theorem append_node :
    (scene.append parent child).node handle =
      { scene.node handle with
        parent := if handle = child then some parent else scene.parentOf handle
        children :=
          scene.childrenOf handle ++ if handle = parent then [child] else [] } := by
  by_cases isChild : handle = child
  · by_cases isParent : handle = parent
    · simp [append, modify, childrenOf, ← isChild, ← isParent]
    · simp [append, modify, childrenOf, ← isChild, isParent]
  · by_cases isParent : handle = parent
    · simp [append, modify, parentOf, childrenOf, isChild, ← isParent]
    · simp [append, modify, parentOf, childrenOf, isChild, isParent]

theorem append_node_of_ne (notParent : handle ≠ parent) (notChild : handle ≠ child) :
    (scene.append parent child).node handle = scene.node handle := by
  simp [append, modify, notParent, notChild]

theorem parentOf_append :
    (scene.append parent child).parentOf handle =
      if handle = child then some parent else scene.parentOf handle :=
  congrArg Node.parent (append_node scene parent child handle)

theorem childrenOf_append :
    (scene.append parent child).childrenOf handle =
      scene.childrenOf handle ++ if handle = parent then [child] else [] :=
  congrArg Node.children (append_node scene parent child handle)

theorem append_id :
    ((scene.append parent child).node handle).id = (scene.node handle).id := by
  rw [append_node]

theorem append_listens :
    ((scene.append parent child).node handle).listens = (scene.node handle).listens := by
  rw [append_node]

theorem append_disposed :
    ((scene.append parent child).node handle).disposed = (scene.node handle).disposed := by
  rw [append_node]

/-! ### Detaching -/

theorem detach_count (scene : Scene) (handle : Nat) :
    (scene.detach handle).count = scene.count := by
  unfold detach
  cases scene.parentOf handle with
  | none => rfl
  | some parent => rfl

end Scene

namespace World

/-- The objects of a world and the registry of the module of a place. -/
def scene (world : World V) (place : Nat) : Scene where
  count := world.objects.size
  node handle := (world.object handle).node
  known := decide (place < world.modules.size)
  registry := (world.moduleOf place).registry

variable {world : World V} {place handle : Nat}

/-- Objects that are not there look like new ones. -/
theorem scene_node_of_le (absent : (world.scene place).count ≤ handle) :
    (world.scene place).node handle = (default : RuntimeObject V).node := by
  have outside : ¬ handle < world.objects.size := Nat.not_lt.mpr absent
  have isDefault : world.object handle = default := by
    simp [object, Array.getD, outside]
  exact congrArg RuntimeObject.node isDefault

theorem scene_isAlone_of_le (absent : (world.scene place).count ≤ handle) :
    ((world.scene place).node handle).IsAlone := by
  rw [scene_node_of_le absent]
  exact ⟨rfl, rfl⟩

theorem scene_inUse_of_le (absent : (world.scene place).count ≤ handle) :
    ((world.scene place).node handle).disposed = false := by
  rw [scene_node_of_le absent]
  rfl

/-! ## Steps that leave objects alone -/

/-- A step that succeeds and leaves the scene of a module as it is. -/
def KeepsScene (place : Nat) (act : Effect V Unit) : Prop :=
  ∀ world, ∃ after, act.run world = .ok () after ∧ after.scene place = world.scene place

namespace KeepsScene

theorem pure (place : Nat) : KeepsScene place (pure () : Effect V Unit) :=
  fun world => ⟨world, rfl, rfl⟩

theorem log (place : Nat) (record : LogRecord) :
    KeepsScene place (Effect.log record : Effect V Unit) :=
  fun _ => ⟨_, rfl, rfl⟩

theorem updateBus (place hub : Nat) (change : Bus V.Callback → Bus V.Callback) :
    KeepsScene place (Effect.updateBus hub change) :=
  fun _ => ⟨_, rfl, rfl⟩

theorem andThen {first second : Effect V Unit} (keepsFirst : KeepsScene place first)
    (keepsSecond : KeepsScene place second) :
    KeepsScene place (do first; second) := by
  intro world
  obtain ⟨middle, ranFirst, sameFirst⟩ := keepsFirst world
  obtain ⟨final, ranSecond, sameSecond⟩ := keepsSecond middle
  exact ⟨final, (run_bind_ok ranFirst).trans ranSecond, sameSecond.trans sameFirst⟩

/-- A step that looks at the world first. -/
theorem look {next : World V → Effect V Unit}
    (keeps : ∀ world, KeepsScene place (next world)) :
    KeepsScene place (get >>= next) := by
  intro world
  obtain ⟨final, ran, same⟩ := keeps world world
  exact ⟨final, (run_bind_ok (EStateM.run_get world)).trans ran, same⟩

theorem forM {α : Type} {items : List α} {act : α → Effect V Unit}
    (keeps : ∀ item ∈ items, KeepsScene place (act item)) :
    KeepsScene place (items.forM act) := by
  induction items with
  | nil => exact pure place
  | cons item rest inductionHypothesis =>
      exact andThen (keeps item List.mem_cons_self)
        (inductionHypothesis fun other member =>
          keeps other (List.mem_cons_of_mem item member))

theorem release (place hub : Nat) (id : String) :
    KeepsScene place (release hub id : Effect V Unit) := by
  unfold World.release
  refine look fun world => ?_
  simp only
  cases (world.hub hub).bus.index.get? id with
  | none => exact pure place
  | some event =>
      refine andThen (updateBus place hub _) ?_
      by_cases asked : (world.hub hub).busConfig.logRemove = true
      · simp only [asked, if_true]
        exact log place _
      · simp only [asked]
        exact pure place

theorem releaseOwner (place hub : Nat) (owner : Value) :
    KeepsScene place (releaseOwner hub owner : Effect V Unit) :=
  look fun _ => forM fun id _ => release place hub id

end KeepsScene

/-! ## Steps that change objects or registries -/

theorem updateObject_scene (place : Nat) (change : RuntimeObject V → RuntimeObject V)
    (nodeChange : Node → Node)
    (onNode : ∀ object : RuntimeObject V, (change object).node = nodeChange object.node)
    (there : handle < world.objects.size) :
    ∃ after,
      (Effect.updateObject handle change).run world = .ok () after ∧
        after.scene place = (world.scene place).modify handle nodeChange := by
  refine ⟨_, rfl, ?_⟩
  unfold scene Scene.modify
  simp only [Array.size_modify, moduleOf, Scene.mk.injEq, true_and, and_true]
  funext other
  by_cases same : other = handle
  · subst same
    simp [object, Array.getD, there, Array.getElem_modify_self, onNode]
  · by_cases otherThere : other < world.objects.size
    · simp [object, Array.getD, otherThere, same, Array.getElem_modify_of_ne (Ne.symm same)]
    · simp [object, Array.getD, otherThere, same]

theorem updateRegistry_scene (known : place < world.modules.size)
    (change : Registry → Registry) :
    ∃ after,
      (Effect.updateRegistry place change).run world = .ok () after ∧
        after.scene place =
          { world.scene place with registry := change (world.scene place).registry } := by
  refine ⟨_, rfl, ?_⟩
  simp [scene, object, moduleOf, Array.getD, known, Array.getElem_modify_self]

theorem append_scene (place : Nat) {parent child : Nat}
    (parentThere : parent < world.objects.size) (childThere : child < world.objects.size) :
    ∃ after,
      (append parent child).run world = .ok () after ∧
        after.scene place = (world.scene place).append parent child := by
  obtain ⟨linked, ranFirst, linkedScene⟩ :=
    updateObject_scene place
      (fun object : RuntimeObject V => { object with parent := some parent })
      (fun node => { node with parent := some parent })
      (fun _ => rfl) childThere
  have sameSize : linked.objects.size = world.objects.size :=
    congrArg Scene.count linkedScene
  obtain ⟨final, ranSecond, finalScene⟩ :=
    updateObject_scene place
      (fun object : RuntimeObject V =>
        { object with children := object.children ++ [child] })
      (fun node => { node with children := node.children ++ [child] })
      (fun _ => rfl) (sameSize ▸ parentThere : parent < linked.objects.size)
  refine ⟨final, (run_bind_ok ranFirst).trans ranSecond, ?_⟩
  rw [finalScene, linkedScene]
  rfl

theorem detach_scene (place : Nat)
    (parentThere : ∀ parent, (world.scene place).parentOf handle = some parent →
      parent < world.objects.size) :
    ∃ after,
      (detach handle : Effect V Unit).run world = .ok () after ∧
        after.scene place = (world.scene place).detach handle := by
  unfold detach Scene.detach
  rw [run_bind_ok (EStateM.run_get world)]
  have sameParent : (world.scene place).parentOf handle = (world.object handle).parent := rfl
  rw [sameParent] at parentThere ⊢
  cases below : (world.object handle).parent with
  | none => exact ⟨world, rfl, rfl⟩
  | some parent =>
      exact updateObject_scene place _
        (fun node => { node with children := node.children.erase handle })
        (fun _ => rfl) (parentThere parent below)

theorem retire_scene (place : Nat) (there : handle < world.objects.size)
    (parentThere : ∀ parent, (world.scene place).parentOf handle = some parent →
      parent < world.objects.size) :
    ∃ after,
      (retire handle : Effect V Unit).run world = .ok () after ∧
        after.scene place = (world.scene place).retire handle := by
  have releases :
      KeepsScene place
        (match (world.object handle).hub with
        | none => pure ()
        | some hub => releaseOwner hub (world.objectValue handle) : Effect V Unit) := by
    cases (world.object handle).hub with
    | none => exact .pure place
    | some hub => exact .releaseOwner place hub _
  obtain ⟨released, ranRelease, releasedScene⟩ := releases world
  have sameSize : released.objects.size = world.objects.size :=
    congrArg Scene.count releasedScene
  rw [← releasedScene, ← sameSize] at parentThere
  obtain ⟨detached, ranDetach, detachedScene⟩ := detach_scene place parentThere
  have detachedSize : detached.objects.size = world.objects.size :=
    (congrArg Scene.count detachedScene).trans
      ((Scene.detach_count _ handle).trans sameSize)
  obtain ⟨final, ranUpdate, finalScene⟩ :=
    updateObject_scene place
      (fun object : RuntimeObject V =>
        { object with children := [], parent := none, disposed := true })
      Node.retired (fun _ => rfl)
      (detachedSize ▸ there : handle < detached.objects.size)
  refine ⟨final, ?_, ?_⟩
  · unfold retire
    rw [run_bind_ok (EStateM.run_get world)]
    cases hub : (world.object handle).hub with
    | none =>
        simp only [hub] at ranRelease
        cases ranRelease
        exact (run_bind_ok ranDetach).trans ranUpdate
    | some hub' =>
        simp only [hub] at ranRelease
        exact (run_bind_ok ranRelease).trans ((run_bind_ok ranDetach).trans ranUpdate)
  · rw [finalScene, detachedScene, releasedScene]
    rfl

/-! ## Steps of a creation -/

variable {kind : ObjectClass V} {descriptor : Entries} {fresh : String}
variable {verbs : Verbs V.Verb} {hub : Option Nat} {object : RuntimeObject V}

/-- An object is built of what is written out of its descriptor, and is not linked to
others. -/
theorem ofDescriptor_eq_ok_iff :
    RuntimeObject.ofDescriptor kind descriptor fresh verbs hub = .ok object ↔
      ∃ id type name,
        RuntimeObject.entryText descriptor DescriptorKeys.standard.id fresh = .ok id ∧
        RuntimeObject.entryText descriptor DescriptorKeys.standard.type
            RuntimeObject.defaultType = .ok type ∧
        RuntimeObject.entryText descriptor DescriptorKeys.standard.name id = .ok name ∧
        object =
          ⟨id, type, name, RuntimeObject.dataOf descriptor, kind, verbs.extend kind.verbs, hub,
            none, [], false⟩ := by
  unfold RuntimeObject.ofDescriptor
  simp only [bind, Except.bind, pure, Except.pure]
  cases RuntimeObject.entryText descriptor DescriptorKeys.standard.id fresh with
  | error cause => simp
  | ok id =>
      cases RuntimeObject.entryText descriptor DescriptorKeys.standard.type
          RuntimeObject.defaultType with
      | error cause => simp
      | ok type =>
          cases named : RuntimeObject.entryText descriptor DescriptorKeys.standard.name id with
          | error cause => simp [named]
          | ok name => simp [named, eq_comm]

theorem isAlone_of_ofDescriptor
    (built : RuntimeObject.ofDescriptor kind descriptor fresh verbs hub = .ok object) :
    object.node.IsAlone ∧ object.node.disposed = false := by
  obtain ⟨id, type, name, -, -, -, rfl⟩ := ofDescriptor_eq_ok_iff.mp built
  exact ⟨⟨rfl, rfl⟩, rfl⟩

/-- A construction builds the object of the descriptor, or does nothing if the object cannot
be called anything. -/
theorem construct_cases (kind : ObjectClass V) (descriptor : Entries) (verbs : Verbs V.Verb)
    (hub : Option Nat) (world : World V) :
    (∃ cause,
      (construct kind descriptor verbs hub).run world = .error (.illegal cause) world) ∨
    ∃ object ids,
      RuntimeObject.ofDescriptor kind descriptor (freshId (world.objectIds + 1)) verbs hub =
          .ok object ∧
        (construct kind descriptor verbs hub).run world =
          .ok world.objects.size
            { world with objects := world.objects.push object, objectIds := ids } := by
  unfold construct
  rw [run_bind_ok (EStateM.run_get world)]
  cases built :
      RuntimeObject.ofDescriptor kind descriptor (freshId (world.objectIds + 1)) verbs hub with
  | error cause => exact .inl ⟨cause, by simp only [built]; rfl⟩
  | ok object => exact .inr ⟨object, _, rfl, by simp only [built]; rfl⟩

theorem push_scene (place : Nat) (object : RuntimeObject V) (ids : Nat) (world : World V) :
    ({ world with objects := world.objects.push object, objectIds := ids } : World V).scene
        place =
      (world.scene place).push object.node := by
  unfold scene Scene.push Scene.modify
  simp only [Array.size_push, moduleOf, Scene.mk.injEq, true_and, and_true]
  funext other
  by_cases last : other = world.objects.size
  · subst last
    simp [World.object, Array.getD]
  · by_cases there : other < world.objects.size
    · simp [World.object, Array.getD, last, there, Array.getElem_push_lt there,
        Nat.lt_succ_of_lt there]
    · have notThere : ¬ other < world.objects.size + 1 := by omega
      simp [World.object, Array.getD, last, there, notThere]

theorem addObject_scene (known : place < world.modules.size) (handle : Nat) :
    ∃ after,
      (addObject place handle).run world = .ok () after ∧
        after.scene place = (world.scene place).register handle := by
  unfold addObject
  rw [run_bind_ok (EStateM.run_get world)]
  by_cases taken : (world.moduleOf place).registry.has (world.object handle).id = true
  · simp only [taken, if_true]
    obtain ⟨logged, ranLog, loggedScene⟩ :=
      KeepsScene.log place
        (.plain .warning
          ("Replacing object with duplicate id '" ++ (world.object handle).id ++ "'")) world
    have loggedKnown : place < logged.modules.size :=
      of_decide_eq_true ((congrArg Scene.known loggedScene).trans (decide_eq_true known))
    obtain ⟨final, ranUpdate, finalScene⟩ :=
      updateRegistry_scene loggedKnown fun registry =>
        registry.add (world.object handle).id handle (world.object handle).listensToFrames
    refine ⟨final, (run_bind_ok ranLog).trans ranUpdate, ?_⟩
    rw [finalScene, loggedScene]
    rfl
  · simp only [taken, Bool.false_eq_true, if_false]
    exact updateRegistry_scene known _

theorem removeOwn_scene (known : place < world.modules.size) (handle : Nat) :
    ∃ after,
      (removeOwn place handle).run world = .ok () after ∧
        after.scene place = (world.scene place).removeOwn handle := by
  unfold removeOwn
  rw [run_bind_ok (EStateM.run_get world)]
  exact updateRegistry_scene known _

end World

end CommandHost
