import CommandHost.Proofs.Object.Creation
import Mathlib.Data.List.Nodup

/-!
# Objects over whole runs

A module is used by creating and removing objects.  Whatever the descriptors and ids,
whether a creation succeeds or fails, the registry and the trees stay in order:
`Orderly` says what that means, and `Populated` which runs are meant.
-/

namespace CommandHost

variable {V : Vocabulary}

namespace World

variable {host : Host V} {place : Nat} {world : World V}

/-! ## Removing objects -/

theorem remove_of_absent {id : String}
    (absent : (world.moduleOf place).registry.get? id = none) :
    (remove place id : Effect V Unit).run world = .ok () world := by
  unfold remove
  rw [run_bind_ok (EStateM.run_get world)]
  simp only [absent]
  rfl

/-- Removing an id discards its object with what is below it, and cannot fail. -/
theorem remove_of_present {id : String} {handle : Nat}
    (sound : (world.scene place).Sound 0) (known : place < world.modules.size)
    (present : (world.moduleOf place).registry.get? id = some handle) :
    ∃ final gone,
      (remove place id : Effect V Unit).run world = .ok () final ∧
        final.scene place = (world.scene place).discard gone ∧
          ∀ other, other ∈ gone ↔ (world.scene place).Below handle other := by
  have member : (id, handle) ∈ (world.scene place).registry.objects :=
    (Table.mem_iff_get? sound.keyed.keys_nodup).mpr present
  have there : handle < world.objects.size := sound.keyed.lt_count _ member
  obtain ⟨discarded, gone, ranDiscard, discardedScene, isBelow⟩ :=
    discard_scene sound.forest sound.keyed known (Nat.zero_le handle) there
  unfold remove
  rw [run_bind_ok (EStateM.run_get world)]
  simp only [present]
  rw [run_bind_ok ranDiscard]
  by_cases asked :
      (world.context (world.moduleOf place).context).config.logRemoveObject = true
  · simp only [asked, if_true]
    obtain ⟨final, ranLog, same⟩ :=
      KeepsScene.log place
        (.plain .info
          ("Module " ++ (world.moduleOf place).name ++ " removed object " ++ id)) discarded
    exact ⟨final, gone, ranLog, same.trans discardedScene, isBelow⟩
  · simp only [asked]
    exact ⟨discarded, gone, rfl, discardedScene, isBelow⟩

/-! ## Runs -/

/-- The worlds in which a module can be that was new, and whose objects were created and
removed, with other changes in between that leave the objects that are there alone. -/
inductive Populated (host : Host V) (place : Nat) : World V → Prop where
  | new {world : World V} (known : place < world.modules.size)
      (empty : (world.moduleOf place).registry = .empty)
      (alone : ∀ handle, (world.object handle).node.IsAlone) : Populated host place world
  | created {world : World V} (populated : Populated host place world) (data : Value) :
      Populated host place (after (create host place data) world)
  | removed {world : World V} (populated : Populated host place world) (id : String) :
      Populated host place (after (remove place id) world)
  | changed {world later : World V} (populated : Populated host place world)
      (unmoved : (world.scene place).Unmoved (later.scene place)) :
      Populated host place later

/-- The registry of a module names objects by their own ids, and the links between
objects are those of trees. -/
structure Orderly (world : World V) (place : Nat) : Prop where
  own_id : ∀ entry ∈ (world.moduleOf place).registry.objects,
    (world.object entry.2).id = entry.1
  frameListeners_eq : (world.moduleOf place).registry.frameListeners =
    (world.moduleOf place).registry.objects.filter fun entry =>
      (world.object entry.2).listensToFrames
  registered_inUse : ∀ entry ∈ (world.moduleOf place).registry.objects,
    (world.object entry.2).disposed = false
  mem_children_iff : ∀ parent child,
    child ∈ (world.object parent).children ↔ (world.object child).parent = some parent
  child_once : ∀ parent child, child ∈ (world.object parent).children →
    (world.object parent).children.count child = 1
  no_cycle : ∀ handle,
    ¬ Relation.TransGen
      (fun parent child => (world.object child).parent = some parent) handle handle
  disposed_alone : ∀ handle, (world.object handle).disposed = true →
    (world.object handle).parent = none ∧ (world.object handle).children = []

end World

namespace Scene

/-- An empty registry and objects without links are in order. -/
theorem Sound.of_alone {scene : Scene} (empty : scene.registry = .empty)
    (alone : ∀ handle, (scene.node handle).IsAlone) : scene.Sound 0 where
  forest := by
    refine .of_unlinked (Nat.zero_le _) (fun handle _ => alone handle) ?_ ?_
    · intro parent child below
      rw [parentOf, (alone child).1] at below
      cases below
    · intro parent child member
      rw [childrenOf, (alone parent).2] at member
      cases member
  keyed := by
    have noObjects : scene.registry.objects = [] := by rw [empty]; rfl
    have noListeners : scene.registry.frameListeners = [] := by rw [empty]; rfl
    constructor
    · rw [noObjects]
      exact List.nodup_nil
    · intro entry member
      rw [noObjects] at member
      cases member
    · rw [noObjects, noListeners, List.filter_nil]
    · intro entry member
      rw [noObjects] at member
      cases member
  lively entry member := by
    rw [empty] at member
    cases member

/-- Parents come before their children, so no object is its own ancestor. -/
theorem Forest.lt_of_transGen {scene : Scene} (forest : scene.Forest 0) {top handle : Nat}
    (reaches : Relation.TransGen (fun parent child => scene.parentOf child = some parent)
      top handle) : top < handle := by
  induction reaches with
  | single step => exact forest.lt_of_parent (Nat.zero_le _) step
  | tail _ step inductionHypothesis =>
      exact inductionHypothesis.trans (forest.lt_of_parent (Nat.zero_le _) step)

end Scene

namespace World

variable {host : Host V} {place : Nat} {world : World V}

theorem created_sound (quiet : host.Quiet place) (sound : (world.scene place).Sound 0)
    (known : place < world.modules.size) (data : Value) :
    ((after (create host place data) world).scene place).Sound 0 ∧
      place < (after (create host place data) world).modules.size := by
  have created := create_created quiet 0 data sound known (Nat.zero_le _)
  unfold after
  cases outcome : (create host place data).run world with
  | ok handle final =>
      rw [outcome] at created
      obtain ⟨_, built, growing, _⟩ := created
      exact ⟨growing.sound, known_of_known_eq known growing.grown.known_eq⟩
  | error fault final =>
      rw [outcome] at created
      obtain ⟨finalSound, built, grown, _⟩ := created
      exact ⟨finalSound, known_of_known_eq known grown.known_eq⟩

theorem removed_sound (sound : (world.scene place).Sound 0)
    (known : place < world.modules.size) (id : String) :
    ((after (remove place id) world).scene place).Sound 0 ∧
      place < (after (remove place id) world).modules.size := by
  unfold after
  cases found : (world.moduleOf place).registry.get? id with
  | none =>
      rw [remove_of_absent found]
      exact ⟨sound, known⟩
  | some handle =>
      obtain ⟨final, gone, ran, finalScene, isBelow⟩ := remove_of_present sound known found
      have closed : (world.scene place).IsClosed gone :=
        Scene.isClosed_of_below [handle] (by simpa using isBelow)
      rw [ran]
      refine ⟨?_, known_of_known_eq known (by rw [finalScene]; rfl)⟩
      simp only [finalScene]
      exact sound.discard closed

theorem Populated.sound (quiet : host.Quiet place) (populated : Populated host place world) :
    (world.scene place).Sound 0 ∧ place < world.modules.size := by
  induction populated with
  | new known empty alone => exact ⟨.of_alone empty alone, known⟩
  | created _ data inductionHypothesis =>
      exact created_sound quiet inductionHypothesis.1 inductionHypothesis.2 data
  | removed _ id inductionHypothesis =>
      exact removed_sound inductionHypothesis.1 inductionHypothesis.2 id
  | changed _ unmoved inductionHypothesis =>
      exact ⟨unmoved.sound inductionHypothesis.1,
        known_of_known_eq inductionHypothesis.2 unmoved.known_eq⟩

/-- With hooks that leave registry and trees alone, every creation, whether it succeeds
or fails, and every removal leave the objects of a module in order. -/
theorem Populated.orderly (quiet : host.Quiet place)
    (populated : Populated host place world) : world.Orderly place where
  own_id entry member :=
    (populated.sound quiet).1.keyed.own_id entry member (Nat.zero_le _)
  frameListeners_eq := (populated.sound quiet).1.keyed.listeners_eq
  registered_inUse entry member :=
    (populated.sound quiet).1.lively entry member (Nat.zero_le _)
  mem_children_iff parent child :=
    (populated.sound quiet).1.forest.mem_children_iff parent child (.inl (Nat.zero_le _))
  child_once parent child member := by
    have distinct := (populated.sound quiet).1.forest.children_nodup parent (Nat.zero_le _)
    exact List.count_eq_one_of_mem distinct member
  no_cycle handle cycle := by
    have forest := (populated.sound quiet).1.forest
    exact Nat.lt_irrefl handle (forest.lt_of_transGen cycle)
  disposed_alone handle disposed :=
    (populated.sound quiet).1.forest.disposed_isAlone handle (Nat.zero_le _) disposed

end World

/-! ## A small host -/

/-- The words of a host that only notes which objects were created. -/
abbrev registrarWords : Vocabulary where
  Callback := Empty
  Handler := Empty
  Verb := Empty
  Ticker := Unit
  Hook := Unit
  Note := Nat
  Memory := Unit

/-- A host that only notes which objects were created. -/
def registrar : Host registrarWords where
  callback := nofun
  handler := nofun
  verb := nofun
  ticker _ _ _ := pure ()
  hook _ handle := Effect.note handle

theorem registrar_quiet (place : Nat) : registrar.Quiet place :=
  fun _ _ _ => World.unmoved_of_scene_eq rfl

/-- A world with a module whose boxes are noted and listen to frames. -/
def storeroom : World registrarWords :=
  { World.start .standard [] () with
    modules := #[.ofClass ⟨[("box", ⟨"Box", [], [], some (), some ()⟩)], [], none⟩ "m" 0] }

/-- The descriptor of a box with an id, and of what is below it. -/
def box (id : String) (below : List Value) : Value :=
  .map (Entries.ofTexts
    [("_id", .text id), ("_type", .text "box"), ("_children", .list below)])

/-- A descriptor of a type that no module knows. -/
def oddity : Value := .map (Entries.ofTexts [("_type", .text "oddity")])

/-- A box with a box of the same id below it, a creation that failed, and a removal. -/
def reused : World registrarWords :=
  World.after (World.remove 0 "d")
    (World.after (World.create registrar 0 (box "b" [box "c" [], oddity]))
      (World.after (World.create registrar 0 (box "a" [box "a" [box "d" []]])) storeroom))

/-- The outer box is still there, but its id means the inner one. -/
theorem World.Populated.orderly_reused :
    World.Populated registrar 0 reused ∧ reused.Orderly 0 ∧
      (reused.moduleOf 0).registry.objects = [("a", 1)] ∧
        (reused.object 0).id = "a" ∧ (reused.object 0).children = [1] := by
  have populated : World.Populated registrar 0 reused :=
    .removed (.created (.created (.new (by decide) rfl fun handle => ⟨rfl, rfl⟩) _) _) "d"
  exact ⟨populated, populated.orderly (registrar_quiet 0), by decide +kernel,
    by decide +kernel, by decide +kernel⟩

end CommandHost
