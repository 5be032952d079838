import CommandHost.Proofs.Object.Orderly

/-!
# Registrations after a failed creation

Each object of a creation is registered before its children are built, and takes the
place of an object with the same id.  A creation that fails takes back what it
registered, but what it replaced does not come back.  `create_rollback` says exactly
what is lost: the registrations under the ids of the objects that the creation built
and disposed.  The rest keeps its order.
-/

namespace CommandHost

variable {V : Vocabulary}

/-- The registry without some ids. -/
def Registry.withoutIds (registry : Registry) (ids : List String) : Registry :=
  ⟨registry.objects.filter (·.1 ∉ ids), registry.frameListeners.filter (·.1 ∉ ids)⟩

namespace World

/-- The registry of a module has one entry for each id, it and the objects name objects
that are there, and the frame listeners are the registered objects that listen. -/
structure Coherent (world : World V) (place : Nat) : Prop where
  known : place < world.modules.size
  keys_nodup : (world.moduleOf place).registry.objects.keys.Nodup
  registered_there : ∀ entry ∈ (world.moduleOf place).registry.objects,
    entry.2 < world.objects.size
  frameListeners_eq : (world.moduleOf place).registry.frameListeners =
    (world.moduleOf place).registry.objects.filter fun entry =>
      (world.object entry.2).listensToFrames
  parent_there : ∀ handle parent, (world.object handle).parent = some parent →
    parent < world.objects.size
  child_there : ∀ handle child, child ∈ (world.object handle).children →
    child < world.objects.size

/-- The ids of the objects that are new in a later world and disposed there. -/
def discardedIds (world later : World V) : List String :=
  let new := (List.range later.objects.size).filter fun handle =>
    world.objects.size ≤ handle ∧ (later.object handle).disposed = true
  new.map fun handle => (later.object handle).id

variable {host : Host V} {place : Nat} {world : World V}

theorem mem_discardedIds {later : World V} {id : String} :
    id ∈ world.discardedIds later ↔
      ∃ handle, world.objects.size ≤ handle ∧ handle < later.objects.size ∧
        (later.object handle).disposed = true ∧ (later.object handle).id = id := by
  simp only [discardedIds, List.mem_map, List.mem_filter, List.mem_range,
    decide_eq_true_eq]
  constructor
  · rintro ⟨handle, ⟨there, new, disposed⟩, isId⟩
    exact ⟨handle, new, there, disposed, isId⟩
  · rintro ⟨handle, new, there, disposed, isId⟩
    exact ⟨handle, ⟨there, new, disposed⟩, isId⟩

namespace Coherent

/-- Of the objects that are still to come nothing can be out of order. -/
theorem sound (coherent : world.Coherent place) :
    (world.scene place).Sound world.objects.size where
  forest :=
    .of_unlinked (Nat.le_refl _) (fun _ => scene_isAlone_of_le)
      (fun parent child => coherent.parent_there child parent) coherent.child_there
  keyed := by
    refine ⟨coherent.keys_nodup, coherent.registered_there, coherent.frameListeners_eq, ?_⟩
    intro entry member new
    exact absurd (coherent.registered_there entry member) (Nat.not_lt.mpr new)
  lively := by
    intro entry member new
    exact absurd (coherent.registered_there entry member) (Nat.not_lt.mpr new)

end Coherent

theorem Populated.coherent (quiet : host.Quiet place)
    (populated : Populated host place world) : world.Coherent place := by
  obtain ⟨sound, known⟩ := populated.sound quiet
  have linked (parent child : Nat)
      (below : (world.scene place).parentOf child = some parent) :
      parent < child ∧ child < world.objects.size :=
    ⟨sound.forest.lt_of_parent (Nat.zero_le _) below, sound.forest.lt_count below⟩
  refine ⟨known, sound.keyed.keys_nodup, sound.keyed.lt_count, sound.keyed.listeners_eq,
    ?_, ?_⟩
  · intro handle parent below
    have order := linked parent handle below
    exact order.1.trans order.2
  · intro handle child member
    have below :=
      (sound.forest.mem_children_iff handle child (.inl (Nat.zero_le _))).mp member
    exact (linked handle child below).2

end World

namespace Scene

variable {before later : Scene} {built : List Nat}

/-- When all that was built is disposed, exactly the entries are left whose ids were not
built. -/
theorem Grown.objects_eq (grown : before.Grown later built) {base : Nat}
    (sound : later.Sound base) (new : base ≤ before.count)
    (disposed : ∀ handle ∈ built, (later.node handle).disposed = true) :
    later.registry.objects =
      before.registry.objects.filter fun entry => later.Unborne built entry.1 := by
  have older : ∀ entry ∈ later.registry.objects, entry.2 < before.count := by
    intro entry member
    by_contra notOlder
    have entryNew : before.count ≤ entry.2 := Nat.not_lt.mp notOlder
    have isDisposed := disposed entry.2 (grown.registered entry member entryNew)
    rw [sound.lively entry member (new.trans entryNew)] at isDisposed
    cases isDisposed
  rw [← grown.older_eq]
  exact (List.filter_eq_self.mpr fun entry member =>
    decide_eq_true (older entry member)).symm

theorem Grown.frameListeners_eq (grown : before.Grown later built) {base : Nat}
    (keyed : before.Keyed base) (sound : later.Sound base) (new : base ≤ before.count)
    (disposed : ∀ handle ∈ built, (later.node handle).disposed = true) :
    later.registry.frameListeners =
      before.registry.frameListeners.filter fun entry => later.Unborne built entry.1 := by
  have sameClass : ∀ entry ∈ before.registry.objects,
      ((later.node entry.2).listens && decide (later.Unborne built entry.1)) =
        (decide (later.Unborne built entry.1) && (before.node entry.2).listens) := by
    intro entry member
    rw [grown.node_eq entry.2 (keyed.lt_count entry member), Bool.and_comm]
  rw [sound.keyed.listeners_eq, grown.objects_eq sound new disposed, keyed.listeners_eq,
    List.filter_filter, List.filter_filter]
  exact List.filter_congr sameClass

end Scene

namespace World

variable {host : Host V} {place : Nat} {world final : World V} {built : List Nat}

/-- The objects that a failed creation built are those that are new and disposed. -/
theorem unborne_iff_discarded
    (grown : (world.scene place).Grown (final.scene place) built)
    (disposed : ∀ handle ∈ built, ((final.scene place).node handle).disposed = true)
    (id : String) :
    (final.scene place).Unborne built id ↔ id ∉ world.discardedIds final := by
  rw [mem_discardedIds]
  constructor
  · rintro unborne ⟨handle, new, _, isDisposed, isId⟩
    have notBuilt : handle ∉ built := fun member => unborne handle member isId
    have inUse := (grown.apart handle new notBuilt).2
    change (final.object handle).disposed = false at inUse
    rw [isDisposed] at inUse
    cases inUse
  · intro absent handle member isId
    have range := grown.mem_range handle member
    exact absent ⟨handle, range.1, range.2, disposed handle member, isId⟩

/-- When all that was built is disposed, the registry lost the ids that were built. -/
theorem registry_eq_withoutIds {base : Nat}
    (grown : (world.scene place).Grown (final.scene place) built)
    (keyed : (world.scene place).Keyed base) (sound : (final.scene place).Sound base)
    (new : base ≤ world.objects.size)
    (disposed : ∀ handle ∈ built, ((final.scene place).node handle).disposed = true) :
    (final.moduleOf place).registry =
      (world.moduleOf place).registry.withoutIds (world.discardedIds final) := by
  have unborne := unborne_iff_discarded grown disposed
  have objects_eq := grown.objects_eq sound new disposed
  have listeners_eq := grown.frameListeners_eq keyed sound new disposed
  simp only [unborne] at objects_eq listeners_eq
  exact congrArg₂ Registry.mk objects_eq listeners_eq

/-- A creation that fails, other than by a hook, leaves the registry as it was, but for
the ids of the objects that it built and disposed.  So it loses nothing if none of these
ids was taken. -/
theorem create_rollback (quiet : host.Quiet place) (coherent : world.Coherent place)
    {data : Value} {fault : Fault}
    (failed : (create host place data).run world = .error fault final)
    (notByHook : ¬ host.RaisesInHook fault) :
    (final.moduleOf place).registry =
        (world.moduleOf place).registry.withoutIds (world.discardedIds final) ∧
      ((∀ id ∈ world.discardedIds final, (world.moduleOf place).registry.has id = false) →
        (final.moduleOf place).registry = (world.moduleOf place).registry) := by
  have created :=
    create_created quiet world.objects.size data coherent.sound coherent.known
      (Nat.le_refl _)
  rw [failed] at created
  obtain ⟨sound, built, grown, raisedOrDisposed⟩ := created
  have disposed := raisedOrDisposed.resolve_left notByHook
  have registry_eq :=
    registry_eq_withoutIds grown coherent.sound.keyed sound (Nat.le_refl _) disposed
  refine ⟨registry_eq, fun free => registry_eq.trans ?_⟩
  have kept : ∀ entry ∈ (world.moduleOf place).registry.objects,
      entry.1 ∉ world.discardedIds final := by
    intro entry member isDiscarded
    have taken : (world.moduleOf place).registry.objects.has entry.1 = true :=
      (Table.has_iff_mem_keys _ _).mpr (List.mem_map_of_mem member)
    have isFree : (world.moduleOf place).registry.objects.has entry.1 = false :=
      free entry.1 isDiscarded
    rw [taken] at isFree
    cases isFree
  have allObjects : (world.moduleOf place).registry.objects.filter
      (·.1 ∉ world.discardedIds final) = (world.moduleOf place).registry.objects :=
    List.filter_eq_self.mpr fun entry member => decide_eq_true (kept entry member)
  have allListeners : (world.moduleOf place).registry.frameListeners.filter
      (·.1 ∉ world.discardedIds final) = (world.moduleOf place).registry.frameListeners :=
    List.filter_eq_self.mpr fun entry member =>
      decide_eq_true (kept entry (coherent.sound.keyed.listed entry member))
  exact congrArg₂ Registry.mk allObjects allListeners

end World

/-! ## A replaced object does not come back -/

/-- A world in which the module has two objects. -/
def pair : World registrarWords :=
  World.after (World.create registrar 0 (.map (Entries.ofTexts [("_id", .text "b")])))
    (World.after (World.create registrar 0 (.map (Entries.ofTexts [("_id", .text "a")])))
      storeroom)

theorem pair_populated : World.Populated registrar 0 pair :=
  .created (.created (.new (by decide) rfl fun _ => ⟨rfl, rfl⟩) _) _

/-- The descriptor of an object that takes the place of another one, with a child of an
unknown type. -/
def usurper : Value :=
  .map (Entries.ofTexts
    [("_id", .text "a"),
      ("_children", .list [.map (Entries.ofTexts [("_type", .text "nope")])])])

/-- The world after the usurper could not be created. -/
def bereft : World registrarWords := World.after (World.create registrar 0 usurper) pair

theorem usurper_fails :
    ∃ fault, (World.create registrar 0 usurper).run pair = .error fault bereft := by
  have fails :
      World.failsWith (World.create registrar 0 usurper) pair (fun _ _ => true) = true := by
    decide +kernel
  obtain ⟨fault, final, outcome, -⟩ := World.exists_error_of_failsWith fails
  exact ⟨fault, by rw [bereft, World.after_of_error outcome, outcome]⟩

/-- The id of the usurper is lost, the other object stays. -/
theorem World.create_rollback_usurper :
    ∃ fault,
      (World.create registrar 0 usurper).run pair = .error fault bereft ∧
        pair.discardedIds bereft = ["a"] ∧
          (bereft.moduleOf 0).registry = (pair.moduleOf 0).registry.withoutIds ["a"] := by
  obtain ⟨fault, failed⟩ := usurper_fails
  have notByHook : ¬ registrar.RaisesInHook fault := by
    rintro ⟨_, _, _, _, raised⟩
    cases raised
  have coherent := pair_populated.coherent (registrar_quiet 0)
  have discarded : pair.discardedIds bereft = ["a"] := by decide +kernel
  have rolledBack :=
    World.create_rollback (registrar_quiet 0) coherent failed notByHook
  rw [discarded] at rolledBack
  exact ⟨fault, failed, discarded, rolledBack.1⟩

/-- A failed creation can lose the registration of an object that it did not build. -/
theorem usurper_not_atomic :
    World.Populated registrar 0 pair ∧
      (∃ fault, (World.create registrar 0 usurper).run pair = .error fault bereft) ∧
        (pair.moduleOf 0).registry.objects = [("a", 0), ("b", 1)] ∧
          (bereft.moduleOf 0).registry.objects = [("b", 1)] :=
  ⟨pair_populated, usurper_fails, by decide +kernel, by decide +kernel⟩

end CommandHost
