import CommandHost.Proofs.Object.Forest

/-!
# The registry of a module and the objects it names

Two objects can have borne the same id, so a registry and the trees may disagree about
which object an id means.  What holds is weaker: a registered object bears the id under
which it is registered and is not disposed.  `Scene.Sound` says this together with the
facts about trees, from some object on; the objects before it may be in any order.
-/

namespace CommandHost

variable {V : Vocabulary}

namespace Registry

/-- The registry without some objects. -/
def without (registry : Registry) (gone : List Nat) : Registry :=
  ⟨registry.objects.filter (·.2 ∉ gone), registry.frameListeners.filter (·.2 ∉ gone)⟩

theorem without_nil (registry : Registry) : registry.without [] = registry := by
  have all (table : Table Nat) : table.filter (·.2 ∉ []) = table :=
    List.filter_eq_self.mpr fun _ _ => by simp
  rw [without, all, all]

theorem without_append (registry : Registry) (first second : List Nat) :
    (registry.without first).without second = registry.without (first ++ second) := by
  simp [without, List.filter_filter, Bool.and_comm]

theorem without_congr (registry : Registry) {first second : List Nat}
    (same : ∀ handle, handle ∈ first ↔ handle ∈ second) :
    registry.without first = registry.without second := by
  simp only [without, same]

/-- An added object is the last one, and nothing else has its id. -/
theorem add_objects (registry : Registry) (id : String) (handle : Nat) (listens : Bool) :
    (registry.add id handle listens).objects =
      registry.objects.erase id ++ [(id, handle)] := by
  have vacant : (if registry.has id then registry.remove id else registry).objects =
      registry.objects.erase id := by
    by_cases taken : registry.has id = true
    · simp [taken, remove]
    · have free : registry.objects.has id = false := by simpa [has] using taken
      rw [if_neg taken, Table.erase_eq_self free]
  have free : (registry.objects.erase id).has id = false := by
    simp [Table.has, Table.get?_erase]
  simp only [add, vacant]
  exact Table.put_eq_append free handle

/-- An id that no object has, no frame listener has. -/
theorem frameListeners_has {registry : Registry}
    (listed : ∀ entry ∈ registry.frameListeners, entry ∈ registry.objects) {id : String}
    (free : registry.has id = false) : registry.frameListeners.has id = false := by
  by_contra present
  have isKey := (Table.has_iff_mem_keys _ id).mp (by simpa using present)
  obtain ⟨entry, member, isId⟩ := List.mem_map.mp isKey
  have keyOfObjects : id ∈ registry.objects.keys :=
    List.mem_map.mpr ⟨entry, listed entry member, isId⟩
  have taken : registry.has id = true := (Table.has_iff_mem_keys _ id).mpr keyOfObjects
  rw [taken] at free
  cases free

theorem add_frameListeners {registry : Registry}
    (listed : ∀ entry ∈ registry.frameListeners, entry ∈ registry.objects)
    (id : String) (handle : Nat) (listens : Bool) :
    (registry.add id handle listens).frameListeners =
      registry.frameListeners.erase id ++ if listens then [(id, handle)] else [] := by
  have vacant : (if registry.has id then registry.remove id else registry).frameListeners =
      registry.frameListeners.erase id := by
    by_cases taken : registry.has id = true
    · simp [taken, remove]
    · have free : registry.has id = false := by simpa using taken
      rw [if_neg taken, Table.erase_eq_self (frameListeners_has listed free)]
  have free : (registry.frameListeners.erase id).has id = false := by
    simp [Table.has, Table.get?_erase]
  simp only [add, vacant]
  by_cases asked : listens = true
  · simp only [asked, if_true]
    exact Table.put_eq_append free handle
  · simp [asked]

end Registry

namespace Scene

variable {scene later : Scene} {base : Nat} {gone : List Nat}

/-- The registry names objects that are there, and those from some object on by the ids
they bear. -/
structure Keyed (base : Nat) (scene : Scene) : Prop where
  keys_nodup : scene.registry.objects.keys.Nodup
  lt_count : ∀ entry ∈ scene.registry.objects, entry.2 < scene.count
  listeners_eq : scene.registry.frameListeners =
    scene.registry.objects.filter fun entry => (scene.node entry.2).listens
  own_id : ∀ entry ∈ scene.registry.objects, base ≤ entry.2 →
    (scene.node entry.2).id = entry.1

/-- The registered objects are in use. -/
def Lively (base : Nat) (scene : Scene) : Prop :=
  ∀ entry ∈ scene.registry.objects, base ≤ entry.2 →
    (scene.node entry.2).disposed = false

/-- From some object on, the trees and the registry are in order. -/
structure Sound (base : Nat) (scene : Scene) : Prop where
  forest : scene.Forest base
  keyed : scene.Keyed base
  lively : scene.Lively base

/-- The scene with a new object that is registered. -/
def enter (scene : Scene) (node : Node) : Scene := (scene.push node).register scene.count

/-- The scene without some registered objects. -/
def withdraw (scene : Scene) (gone : List Nat) : Scene :=
  { scene with registry := scene.registry.without gone }

/-- The scene after some objects were disposed and taken off the registry. -/
def discard (scene : Scene) (gone : List Nat) : Scene :=
  (scene.retireAll gone).withdraw gone

theorem withdraw_append (scene : Scene) (first second : List Nat) :
    (scene.withdraw first).withdraw second = scene.withdraw (first ++ second) := by
  simp [withdraw, Registry.without_append]

theorem withdraw_congr {first second : List Nat}
    (same : ∀ handle, handle ∈ first ↔ handle ∈ second) :
    scene.withdraw first = scene.withdraw second := by
  simp [withdraw, Registry.without_congr _ same]

/-! ## The registry -/

namespace Keyed

theorem listed (keyed : scene.Keyed base) :
    ∀ entry ∈ scene.registry.frameListeners, entry ∈ scene.registry.objects := by
  intro entry member
  rw [keyed.listeners_eq] at member
  exact (List.mem_filter.mp member).1

/-- Ids and classes of the registered objects are all that matters. -/
theorem transfer (keyed : scene.Keyed base)
    (count_le : scene.count ≤ later.count)
    (registry_eq : later.registry = scene.registry)
    (id_eq : ∀ handle < scene.count, (later.node handle).id = (scene.node handle).id)
    (listens_eq : ∀ handle < scene.count,
      (later.node handle).listens = (scene.node handle).listens) :
    later.Keyed base where
  keys_nodup := registry_eq ▸ keyed.keys_nodup
  lt_count entry member := by
    rw [registry_eq] at member
    exact (keyed.lt_count entry member).trans_le count_le
  listeners_eq := by
    rw [registry_eq, keyed.listeners_eq]
    refine List.filter_congr fun entry member => ?_
    rw [listens_eq entry.2 (keyed.lt_count entry member)]
  own_id entry member new := by
    rw [registry_eq] at member
    rw [id_eq entry.2 (keyed.lt_count entry member)]
    exact keyed.own_id entry member new

theorem withdraw (keyed : scene.Keyed base) (gone : List Nat) :
    (scene.withdraw gone).Keyed base where
  keys_nodup := keyed.keys_nodup.sublist (List.filter_sublist.map Prod.fst)
  lt_count entry member := keyed.lt_count entry (List.mem_filter.mp member).1
  listeners_eq := by
    simp only [Scene.withdraw, Registry.without, keyed.listeners_eq, List.filter_filter,
      Bool.and_comm]
  own_id entry member := keyed.own_id entry (List.mem_filter.mp member).1

/-- The entry of a new object is the one under its own id. -/
theorem key_eq_iff (keyed : scene.Keyed base) {handle : Nat} (new : base ≤ handle)
    (own : scene.registry.get? (scene.node handle).id = some handle)
    {entry : String × Nat} (member : entry ∈ scene.registry.objects) :
    entry.1 = (scene.node handle).id ↔ entry.2 = handle := by
  constructor
  · intro sameKey
    have found := (Table.mem_iff_get? keyed.keys_nodup).mp member
    rw [sameKey] at found
    exact Option.some.inj (found.symm.trans own)
  · intro sameObject
    have key := keyed.own_id entry member (sameObject ▸ new)
    rw [sameObject] at key
    exact key.symm

/-- Taking off a new object unless its id belongs to another one takes off its entry. -/
theorem removeOwn_eq (keyed : scene.Keyed base) {handle : Nat} (new : base ≤ handle) :
    scene.removeOwn handle = scene.withdraw [handle] := by
  have registry_eq :
      scene.registry.removeOwn (scene.node handle).id handle =
        scene.registry.without [handle] := by
    unfold Registry.removeOwn Registry.without
    by_cases own : scene.registry.get? (scene.node handle).id = some handle
    · have sameTest : ∀ entry ∈ scene.registry.objects,
          decide (entry.1 ≠ (scene.node handle).id) = decide (entry.2 ∉ [handle]) := by
        intro entry member
        simp [keyed.key_eq_iff new own member]
      rw [if_pos own, Registry.remove, Table.erase, Table.erase,
        List.filter_congr sameTest,
        List.filter_congr fun entry member => sameTest entry (keyed.listed entry member)]
    · have absent : ∀ entry ∈ scene.registry.objects, entry.2 ∉ [handle] := by
        intro entry member isHandle
        have sameObject := List.mem_singleton.mp isHandle
        have key := keyed.own_id entry member (sameObject ▸ new)
        have found := (Table.mem_iff_get? keyed.keys_nodup).mp member
        rw [← key, sameObject] at found
        exact own found
      have objects_eq : scene.registry.objects.filter (·.2 ∉ [handle]) =
          scene.registry.objects :=
        List.filter_eq_self.mpr fun entry member => decide_eq_true (absent entry member)
      have listeners_eq : scene.registry.frameListeners.filter (·.2 ∉ [handle]) =
          scene.registry.frameListeners :=
        List.filter_eq_self.mpr fun entry member =>
          decide_eq_true (absent entry (keyed.listed entry member))
      rw [if_neg own, objects_eq, listeners_eq]
  rw [removeOwn, registry_eq, Scene.withdraw]

theorem enter_objects (scene : Scene) (node : Node) :
    (scene.enter node).registry.objects =
      scene.registry.objects.erase node.id ++ [(node.id, scene.count)] := by
  have newNode : (scene.push node).node scene.count = node := by simp [push, modify]
  simp only [enter, register, newNode]
  exact Registry.add_objects _ _ _ _

theorem enter_node (scene : Scene) (node : Node) {handle : Nat}
    (older : handle < scene.count) : (scene.enter node).node handle = scene.node handle := by
  simp [enter, register, push, modify, older.ne]

theorem enter_newNode (scene : Scene) (node : Node) :
    (scene.enter node).node scene.count = node := by
  simp [enter, register, push, modify]

theorem mem_enter_objects {node : Node} {entry : String × Nat}
    (member : entry ∈ (scene.enter node).registry.objects) :
    entry ∈ scene.registry.objects ∨ entry = (node.id, scene.count) := by
  rw [enter_objects] at member
  rcases List.mem_append.mp member with older | last
  · exact .inl ((List.mem_filter.mp older).1)
  · exact .inr (List.mem_singleton.mp last)

theorem register_objects (scene : Scene) (handle : Nat) :
    (scene.register handle).registry.objects =
      scene.registry.objects.erase (scene.node handle).id ++
        [((scene.node handle).id, handle)] :=
  Registry.add_objects ..

theorem mem_register_objects {handle : Nat} {entry : String × Nat}
    (member : entry ∈ (scene.register handle).registry.objects) :
    entry ∈ scene.registry.objects ∨ entry = ((scene.node handle).id, handle) := by
  rw [register_objects] at member
  rcases List.mem_append.mp member with older | last
  · exact .inl ((List.mem_filter.mp older).1)
  · exact .inr (List.mem_singleton.mp last)

/-- An object that is there may be registered under its id, also once more. -/
theorem register (keyed : scene.Keyed base) {handle : Nat} (there : handle < scene.count) :
    (scene.register handle).Keyed base where
  keys_nodup := by
    have distinct := Table.nodup_keys_erase keyed.keys_nodup (scene.node handle).id
    have absent : (scene.node handle).id ∉
        (scene.registry.objects.erase (scene.node handle).id).keys := by
      rw [← Table.has_iff_mem_keys]
      simp [Table.has, Table.get?_erase]
    rw [register_objects, Table.keys, List.map_append]
    refine List.nodup_append.mpr ⟨distinct, by simp, ?_⟩
    intro key member last isLast
    rw [List.map_cons, List.map_nil, List.mem_singleton] at isLast
    rintro rfl
    rw [isLast] at member
    exact absent member
  lt_count entry member := by
    rcases mem_register_objects member with older | rfl
    · exact keyed.lt_count entry older
    · exact there
  listeners_eq := by
    have listeners : (scene.register handle).registry.frameListeners =
        scene.registry.frameListeners.erase (scene.node handle).id ++
          if (scene.node handle).listens then [((scene.node handle).id, handle)] else [] :=
      Registry.add_frameListeners keyed.listed ..
    have erased : scene.registry.frameListeners.erase (scene.node handle).id =
        (scene.registry.objects.erase (scene.node handle).id).filter
          fun entry => (scene.node entry.2).listens := by
      simp only [Table.erase, keyed.listeners_eq, List.filter_filter, Bool.and_comm]
    rw [listeners, register_objects, List.filter_append, erased, List.filter_cons,
      List.filter_nil]
    rfl
  own_id entry member new := by
    rcases mem_register_objects member with older | rfl
    · exact keyed.own_id entry older new
    · rfl

theorem push (keyed : scene.Keyed base) (node : Node) : (scene.push node).Keyed base := by
  have older {handle : Nat} (there : handle < scene.count) :
      (scene.push node).node handle = scene.node handle := by
    simp [Scene.push, modify, there.ne]
  exact keyed.transfer (Nat.le_succ _) rfl (fun handle there => by rw [older there])
    fun handle there => by rw [older there]

theorem enter (keyed : scene.Keyed base) (node : Node) : (scene.enter node).Keyed base :=
  (keyed.push node).register (Nat.lt_succ_self scene.count)

end Keyed

/-! ## Soundness through the steps of a creation -/

/-- A new object that is not linked is a tree of its own. -/
theorem Forest.enter (forest : scene.Forest base) {node : Node} (alone : node.IsAlone) :
    (scene.enter node).Forest base := by
  refine forest.transfer (Nat.le_succ _) fun handle => ?_
  by_cases last : handle = scene.count
  · subst last
    refine .inr ⟨?_, forest.absent_isAlone _ (Nat.le_refl _)⟩
    rw [Keyed.enter_newNode]
    exact alone
  · left
    simp [Scene.enter, register, push, modify, last]

theorem Sound.enter (sound : scene.Sound base) {node : Node} (alone : node.IsAlone)
    (inUse : node.disposed = false) : (scene.enter node).Sound base where
  forest := sound.forest.enter alone
  keyed := sound.keyed.enter node
  lively entry member new := by
    rcases Keyed.mem_enter_objects member with older | rfl
    · rw [Keyed.enter_node scene node (sound.keyed.lt_count entry older)]
      exact sound.lively entry older new
    · rw [Keyed.enter_newNode]
      exact inUse

theorem Keyed.retireAll (keyed : scene.Keyed base) (gone : List Nat) :
    (scene.retireAll gone).Keyed base :=
  keyed.transfer (Nat.le_refl _) rfl (fun handle _ => retireAll_id scene gone handle)
    fun handle _ => retireAll_listens scene gone handle

theorem Sound.discard (sound : scene.Sound base) (closed : scene.IsClosed gone) :
    (scene.discard gone).Sound base where
  forest :=
    (sound.forest.retireAll closed).transfer (Nat.le_refl _) fun _ => .inl rfl
  keyed := (sound.keyed.retireAll gone).withdraw gone
  lively entry member new := by
    obtain ⟨older, kept⟩ := List.mem_filter.mp member
    have notGone : entry.2 ∉ gone := of_decide_eq_true kept
    have inUse := sound.lively entry older new
    have disposed_eq := retireAll_disposed scene gone entry.2
    rw [inUse, decide_eq_false notGone] at disposed_eq
    exact disposed_eq

/-- A new tree may be hung below a new object that comes before it. -/
theorem Forest.append (forest : scene.Forest base) {parent child : Nat}
    (newParent : base ≤ parent) (earlier : parent < child) (there : child < scene.count)
    (top : scene.parentOf child = none)
    (parentInUse : (scene.node parent).disposed = false)
    (childInUse : (scene.node child).disposed = false) :
    (scene.append parent child).Forest base := by
  have newChild : base ≤ child := newParent.trans earlier.le
  have unlinked (handle : Nat) : child ∉ scene.childrenOf handle := by
    intro member
    have below := (forest.mem_children_iff handle child (.inr newChild)).mp member
    rw [top] at below
    cases below
  constructor
  · intro above below new
    have iff := forest.mem_children_iff above below new
    rw [parentOf_append, childrenOf_append, List.mem_append]
    by_cases isChild : below = child
    · subst isChild
      by_cases isParent : above = parent
      · simp [isParent]
      · simp [isParent, unlinked, Ne.symm isParent]
    · by_cases isParent : above = parent
      · rw [isParent] at iff
        simp [isParent, isChild, iff]
      · simp [isParent, isChild, iff]
  · intro above below new member
    rw [childrenOf_append, List.mem_append] at member
    rcases member with older | added
    · exact forest.lt_of_mem above below new older
    · by_cases isParent : above = parent
      · rw [if_pos isParent, List.mem_singleton] at added
        rw [isParent, added]
        exact earlier
      · simp [isParent] at added
  · intro above below new isBelow
    rw [parentOf_append] at isBelow
    by_cases isChild : below = child
    · rw [if_pos isChild] at isBelow
      exact Option.some.inj isBelow ▸ newParent
    · rw [if_neg isChild] at isBelow
      exact forest.le_parent above below new isBelow
  · intro above new
    rw [childrenOf_append]
    by_cases isParent : above = parent
    · rw [if_pos isParent]
      refine List.nodup_append.mpr ⟨forest.children_nodup above new, by simp, ?_⟩
      intro other member last isLast
      rw [List.mem_singleton.mp isLast]
      rintro rfl
      exact unlinked above member
    · simpa [isParent] using forest.children_nodup above new
  · intro handle new disposed
    rw [append_disposed] at disposed
    have notParent : handle ≠ parent := by
      rintro rfl
      rw [parentInUse] at disposed
      cases disposed
    have notChild : handle ≠ child := by
      rintro rfl
      rw [childInUse] at disposed
      cases disposed
    rw [append_node_of_ne _ _ _ _ notParent notChild]
    exact forest.disposed_isAlone handle new disposed
  · intro handle absent
    have isAbsent : scene.count ≤ handle := absent
    rw [append_node_of_ne _ _ _ _ (by omega) (by omega)]
    exact forest.absent_isAlone handle absent

end Scene

/-! ## Discarding a tree -/

namespace World

variable {base place : Nat}

theorem forM_removeOwn_scene (handles : List Nat) {world : World V}
    (keyed : (world.scene place).Keyed base) (known : place < world.modules.size)
    (new : ∀ handle ∈ handles, base ≤ handle) :
    ∃ after,
      (handles.forM (removeOwn place) : Effect V Unit).run world = .ok () after ∧
        after.scene place = (world.scene place).withdraw handles := by
  induction handles generalizing world with
  | nil =>
      refine ⟨world, rfl, ?_⟩
      rw [Scene.withdraw, Registry.without_nil]
  | cons handle rest inductionHypothesis =>
      obtain ⟨middle, ran, middleScene⟩ := removeOwn_scene known handle
      rw [keyed.removeOwn_eq (new handle List.mem_cons_self)] at middleScene
      have middleKeyed : (middle.scene place).Keyed base := by
        rw [middleScene]
        exact keyed.withdraw [handle]
      have middleKnown : place < middle.modules.size :=
        of_decide_eq_true ((congrArg Scene.known middleScene).trans (decide_eq_true known))
      obtain ⟨after, ranRest, afterScene⟩ :=
        inductionHypothesis middleKeyed middleKnown fun other member =>
          new other (List.mem_cons_of_mem handle member)
      refine ⟨after, ?_, ?_⟩
      · rw [List.forM_eq_forM, List.forM_cons, run_bind_ok ran]
        exact ranRest
      · rw [afterScene, middleScene, Scene.withdraw_append]
        rfl

/-- Discarding an object succeeds; it disposes exactly what is below the object, and
takes exactly these objects off the registry. -/
theorem discard_scene {handle : Nat} {world : World V}
    (forest : (world.scene place).Forest base) (keyed : (world.scene place).Keyed base)
    (known : place < world.modules.size) (new : base ≤ handle)
    (there : handle < world.objects.size) :
    ∃ after gone,
      (discard place handle).run world = .ok () after ∧
        after.scene place = (world.scene place).discard gone ∧
          ∀ other, other ∈ gone ↔ (world.scene place).Below handle other := by
  -- The objects are listed before they are disposed, since the links are gone afterwards.
  obtain ⟨handles, isSubtree, handlesBelow⟩ := subtree_eq_ok forest new there
  obtain ⟨middle, gone, ranDispose, middleScene, goneBelow⟩ :=
    dispose_scene forest new there
  have middleKnown : place < middle.modules.size :=
    of_decide_eq_true ((congrArg Scene.known middleScene).trans (decide_eq_true known))
  have middleKeyed : (middle.scene place).Keyed base := by
    rw [middleScene]
    exact keyed.retireAll gone
  have sameHandles (other : Nat) : other ∈ handles.reverse ↔ other ∈ gone := by
    rw [List.mem_reverse, handlesBelow, goneBelow]
  have handlesNew : ∀ other ∈ handles.reverse, base ≤ other := by
    intro other member
    have below := (goneBelow other).mp ((sameHandles other).mp member)
    exact new.trans (forest.le_of_below new below)
  obtain ⟨after, ranRemove, afterScene⟩ :=
    forM_removeOwn_scene handles.reverse middleKeyed middleKnown handlesNew
  refine ⟨after, gone, ?_, ?_, goneBelow⟩
  · unfold discard
    rw [run_bind_ok (EStateM.run_get world), isSubtree]
    exact (run_bind_ok ranDispose).trans ranRemove
  · rw [afterScene, middleScene, Scene.withdraw_congr sameHandles]
    rfl

end World

end CommandHost
