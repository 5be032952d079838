import CommandHost.Proofs.Object.Clearance

/-!
# Listeners of new objects

While a creation goes on, its hooks may let new objects listen.  `Tidy` compares the
buses with those of an earlier world: without the listeners of the objects that came
later they are the same, and these objects are in use.  So when all objects that came
later are disposed, the buses are as they were.

Every step of a creation keeps `Tidy`, as long as it concerns new objects only.
-/

namespace CommandHost

variable {V : Vocabulary}

namespace World

variable {origin world later : World V} {base place : Nat}

/-- Of the objects from some place on those that own listeners are in use; without these
listeners the buses are those of another world; and the children of these objects are
among them. -/
structure Tidy (base : Nat) (origin world : World V) : Prop where
  faithful : world.Faithful base
  owner_inUse : ∀ hub, ∀ listener ∈ (world.hub hub).bus.listeners, ∀ handle, base ≤ handle →
    listener.object? = some handle → world.InUse handle
  bus_eq : ∀ hub, (world.hub hub).bus.keep (fun listener => !listener.isOwnedBy (base ≤ ·)) =
    (origin.hub hub).bus
  child_new : ∀ parent, base ≤ parent → ∀ child ∈ (world.object parent).children,
    base ≤ child ∧ child < world.objects.size

/-- What the hook of an object may do: it lets the object, or what is below it, listen, or
it changes something that has to do with neither objects nor listeners. -/
inductive OwnAct (top : Nat) (world : World V) : World V → Prop where
  | listened (handle : Nat) (event : String) (callback : V.Callback) (once : Bool)
      (isUnder : world.Under top handle) (inUse : world.InUse handle) :
      OwnAct top world (after (listenAs handle event callback once) world)
  | apart {later : World V} (apart : world.Apart later) : OwnAct top world later

end World

/-- The hooks of a host leave the objects and the registry of a module alone, and the
hook of an object that is in use does nothing to buses but let this object, and what is
below it, listen. -/
structure Host.Discreet (host : Host V) (place : Nat) : Prop where
  quiet : host.Quiet place
  acts : ∀ (hook : V.Hook) (handle : Nat) (world : World V), world.InUse handle →
    Relation.ReflTransGen (World.OwnAct handle) world
      (World.after (host.hook hook handle) world)

namespace World

variable {origin world later : World V} {base place : Nat}

theorem object_of_le {handle : Nat} (absent : world.objects.size ≤ handle) :
    world.object handle = default := by
  simp [object, Array.getD, Nat.not_lt.mpr absent]

theorem Faithful.mono {more : Nat} (faithful : world.Faithful base) (isMore : base ≤ more) :
    world.Faithful more := by
  intro hub
  obtain ⟨ledger, mirrors, listed⟩ := faithful hub
  exact ⟨ledger, mirrors, fun listener member => ⟨(listed listener member).1,
    fun handle new => (listed listener member).2 handle (isMore.trans new)⟩⟩

namespace Tidy

/-- Before the first object is built there is nothing to compare. -/
theorem refl (faithful : world.Faithful world.objects.size) :
    Tidy world.objects.size world world := by
  have noOwner (hub : Nat) (listener : Listener V.Callback)
      (member : listener ∈ (world.hub hub).bus.listeners) (handle : Nat)
      (new : world.objects.size ≤ handle) : listener.object? ≠ some handle := by
    intro isOwner
    obtain ⟨ledger, mirrors, listed⟩ := faithful hub
    have acts := (listed listener (mirrors.mem_listeners.mp member)).2 handle new isOwner
    rw [object_of_le new] at acts
    cases acts
  refine ⟨faithful, ?_, fun hub => ?_, ?_⟩
  · intro hub listener member handle new isOwner
    exact absurd isOwner (noOwner hub listener member handle new)
  · obtain ⟨ledger, mirrors, -⟩ := faithful hub
    refine mirrors.keep_eq_self fun listener member => ?_
    rw [Bool.not_eq_true', Listener.isOwnedBy, Option.any_eq_false]
    intro handle isOwner
    rw [decide_eq_false_iff_not]
    exact fun new => noOwner hub listener (mirrors.mem_listeners.mpr member) handle new isOwner
  · intro parent new child member
    rw [object_of_le new] at member
    cases member

/-- When all new objects are disposed, the buses are as they were. -/
theorem bus_eq_of_disposed (tidy : Tidy base origin world)
    (disposed : ∀ handle, base ≤ handle → handle < world.objects.size →
      (world.object handle).disposed = true) (hub : Nat) :
    (world.hub hub).bus = (origin.hub hub).bus := by
  obtain ⟨ledger, mirrors, -⟩ := tidy.faithful hub
  rw [← tidy.bus_eq, mirrors.keep_eq_self]
  intro listener member
  rw [Bool.not_eq_true', Listener.isOwnedBy, Option.any_eq_false]
  intro handle isOwner
  rw [decide_eq_false_iff_not]
  intro new
  obtain ⟨there, inUse⟩ :=
    tidy.owner_inUse hub listener (mirrors.mem_listeners.mpr member) handle new isOwner
  rw [disposed handle new there] at inUse
  cases inUse

/-- Steps that leave the buses alone, and objects in use. -/
theorem transfer (tidy : Tidy base origin world) (faithful : later.Faithful base)
    (size_le : world.objects.size ≤ later.objects.size)
    (bus_eq : ∀ hub, (later.hub hub).bus = (world.hub hub).bus)
    (disposed_eq : ∀ handle < world.objects.size,
      (later.object handle).disposed = (world.object handle).disposed)
    (child_new : ∀ parent, base ≤ parent → ∀ child ∈ (later.object parent).children,
      base ≤ child ∧ child < later.objects.size) : Tidy base origin later where
  faithful := faithful
  owner_inUse hub listener member handle new isOwner := by
    rw [bus_eq] at member
    obtain ⟨there, inUse⟩ := tidy.owner_inUse hub listener member handle new isOwner
    exact ⟨there.trans_le size_le, (disposed_eq handle there).trans inUse⟩
  bus_eq hub := by
    rw [bus_eq]
    exact tidy.bus_eq hub
  child_new := child_new

theorem log (record : LogRecord) :
    Keeps (Tidy base origin) (Effect.log record : Effect V Unit) :=
  fun world tidy => tidy.transfer ((upheld_faithful 0 base).log record world tidy.faithful)
    (Nat.le_refl _) (fun _ => rfl) (fun _ _ => rfl) tidy.child_new

theorem updateRegistry (place : Nat) (change : Registry → Registry) :
    Keeps (Tidy base origin) (Effect.updateRegistry place change : Effect V Unit) :=
  fun world tidy => tidy.transfer
    ((upheld_faithful place base).registry change world tidy.faithful)
    (Nat.le_refl _) (fun _ => rfl) (fun _ _ => rfl) tidy.child_new

theorem addObject (place handle : Nat) :
    Keeps (Tidy base origin) (World.addObject place handle : Effect V Unit) := by
  apply Keeps.look
  intro world tidy
  have adds := @updateRegistry V origin base place fun registry =>
    registry.add (world.object handle).id handle (world.object handle).listensToFrames
  exact Keeps.ite (.bind (log _) fun _ => adds) adds world tidy

/-! ### Building and linking -/

theorem construct (kind : ObjectClass V) (descriptor : Entries) (verbs : Verbs V.Verb)
    (hub : Option Nat) :
    Keeps (Tidy base origin) (World.construct kind descriptor verbs hub) := by
  intro world tidy
  have faithful := construct_faithful kind descriptor verbs hub world tidy.faithful
  rcases construct_cases kind descriptor verbs hub world with
    ⟨cause, refused⟩ | ⟨object, ids, built, ran⟩
  · rw [after_of_error refused]
    exact tidy
  rw [after_of_ok ran] at faithful ⊢
  have object_eq := @object_of_push V world
    { world with objects := world.objects.push object, objectIds := ids } _ rfl
  have size_eq : (world.objects.push object).size = world.objects.size + 1 :=
    Array.size_push ..
  refine tidy.transfer faithful (size_eq ▸ Nat.le_succ _) (fun _ => rfl) ?_ ?_
  · intro handle there
    rw [object_eq, if_neg there.ne]
  · intro parent new child member
    rw [object_eq] at member
    by_cases isNew : parent = world.objects.size
    · have childless : object.children = [] := (isAlone_of_ofDescriptor built).1.2
      rw [if_pos isNew, childless] at member
      cases member
    · rw [if_neg isNew] at member
      rw [size_eq]
      exact (tidy.child_new parent new child member).imp_right Nat.lt_succ_of_lt

/-- A change of links that adds only new children. -/
theorem relink (tidy : Tidy base origin world) (handle : Nat)
    {change : RuntimeObject V → RuntimeObject V}
    (relinked : ∀ object : RuntimeObject V, object.Relinked (change object))
    (sameUse : ∀ object, (change object).disposed = object.disposed)
    (children : ∀ object, ∀ child ∈ (change object).children,
      child ∈ object.children ∨ base ≤ child ∧ child < world.objects.size) :
    Tidy base origin (after (Effect.updateObject handle change) world) := by
  have object_eq := fun other => object_updateObject world handle other change
  have size_eq : (after (Effect.updateObject handle change) world).objects.size =
      world.objects.size := Array.size_modify
  refine tidy.transfer
    ((upheld_faithful 0 base).relink handle change relinked world tidy.faithful)
    size_eq.ge (fun _ => rfl) (fun other _ => ?_) (fun parent new child member => ?_)
  · rw [object_eq]
    by_cases same : other = handle ∧ other < world.objects.size
    · rw [if_pos same, sameUse]
    · rw [if_neg same]
  · rw [size_eq]
    rw [object_eq] at member
    by_cases same : parent = handle ∧ parent < world.objects.size
    · rw [if_pos same] at member
      rcases children _ child member with older | isNew
      · exact tidy.child_new parent new child older
      · exact isNew
    · rw [if_neg same] at member
      exact tidy.child_new parent new child member

/-- A new object may be hung below any other. -/
theorem append (parent : Nat) {child : Nat} (tidy : Tidy base origin world)
    (new : base ≤ child) (there : child < world.objects.size) :
    Tidy base origin (after (World.append parent child) world) := by
  have linked := @relink V origin world base tidy child
    (fun object => { object with parent := some parent })
    (fun _ => rfl) (fun _ => rfl) (fun _ _ member => .inl member)
  refine linked.relink parent (fun _ => by exact rfl) (fun _ => rfl) fun object other member => ?_
  rcases List.mem_append.mp member with older | isNew
  · exact .inl older
  · right
    rw [List.mem_singleton.mp isNew]
    exact ⟨new, there.trans_le Array.size_modify.ge⟩

/-! ### Disposing -/

/-- A disposal of a new object takes its listeners with it. -/
theorem retire {handle : Nat} (tidy : Tidy base origin world) (new : base ≤ handle)
    (there : handle < world.objects.size) :
    Tidy base origin (after (World.retire handle) world) ∧
      (after (World.retire handle) world).objects.size = world.objects.size := by
  obtain ⟨released, retire_eq, same, -, bus_eq⟩ := retire_after tidy.faithful new
  have pruned := unlink_pruned released (same.objects_eq.symm ▸ there)
  have faithful := (upheld_faithful 0 base).maintained.retire handle world tidy.faithful
  rw [retire_eq] at faithful ⊢
  generalize after _ released = final at pruned faithful ⊢
  have hub_eq (hub : Nat) : (final.hub hub).bus =
      (world.hub hub).bus.keep fun listener => !listener.isOwnedBy (· == handle) := by
    rw [World.hub, pruned.hubs_eq, ← World.hub, bus_eq]
  have size_eq : final.objects.size = world.objects.size := by
    rw [pruned.size_eq, same.objects_eq]
  refine ⟨⟨faithful, ?_, fun hub => ?_, fun parent parentNew child member => ?_⟩, size_eq⟩
  · intro hub listener member owner ownerNew isOwner
    rw [hub_eq, Bus.listeners_keep, List.mem_filter] at member
    obtain ⟨isListener, kept⟩ := member
    have different : owner ≠ handle := by
      rintro rfl
      simp [Listener.isOwnedBy, isOwner] at kept
    obtain ⟨ownerThere, inUse⟩ :=
      tidy.owner_inUse hub listener isListener owner ownerNew isOwner
    refine ⟨size_eq ▸ ownerThere, ?_⟩
    rw [pruned.disposed_eq, same.object_eq, inUse, beq_eq_false_iff_ne.mpr different]
    rfl
  · rw [hub_eq, Bus.keep_keep, ← tidy.bus_eq]
    refine Bus.keep_congr fun listener _ => ?_
    unfold Listener.isOwnedBy
    cases listener.object? with
    | none => rfl
    | some owner =>
        by_cases isHandle : owner = handle
        · simp [isHandle, new]
        · simp [beq_eq_false_iff_ne.mpr isHandle]
  · have before := pruned.child_before parent child member
    rw [same.object_eq] at before
    rw [size_eq]
    exact tidy.child_new parent parentNew child before

/-- The objects below a new one are new. -/
theorem disposeWithin (count depth : Nat) {handle : Nat} (new : base ≤ handle)
    (there : handle < count) :
    Keeps (fun world => Tidy base origin world ∧ world.objects.size = count)
      (World.disposeWithin depth handle) := by
  induction depth generalizing handle with
  | zero => exact .throw _
  | succ depth inductionHypothesis =>
      apply Keeps.look
      intro world held
      have disposesChildren : Keeps
          (fun world => Tidy base origin world ∧ world.objects.size = count)
          ((world.object handle).children.forM (World.disposeWithin depth)) := by
        refine .forM_mem fun child member => ?_
        obtain ⟨childNew, childThere⟩ := held.1.child_new handle new child member
        exact inductionHypothesis childNew (held.2 ▸ childThere)
      have retires : Keeps (fun world => Tidy base origin world ∧ world.objects.size = count)
          (World.retire handle) := by
        intro middle middleHeld
        have retired := middleHeld.1.retire new (middleHeld.2.symm ▸ there)
        exact ⟨retired.1, retired.2.trans middleHeld.2⟩
      exact Keeps.bind disposesChildren (fun _ => retires) world held

theorem discard (place : Nat) {handle : Nat} (tidy : Tidy base origin world)
    (new : base ≤ handle) (there : handle < world.objects.size) :
    Tidy base origin (after (World.discard place handle) world) := by
  have disposes : Keeps
      (fun middle => Tidy base origin middle ∧ middle.objects.size = world.objects.size)
      (dispose handle) :=
    .look fun middle held => disposeWithin _ middle.depthBound new there middle held
  have takesOff (taken : Nat) : Keeps
      (fun middle => Tidy base origin middle ∧ middle.objects.size = world.objects.size)
      (removeOwn place taken) :=
    .look fun middle held => And.intro (updateRegistry place _ middle held.1) held.2
  unfold World.discard
  rw [after_bind_ok (EStateM.run_get world)]
  exact (Keeps.bind (.ofUse _) (fun _ => .bind disposes fun _ => .forM takesOff)
    world ⟨tidy, rfl⟩).1

/-! ### Hooks -/

/-- An object that is under a new one is new. -/
theorem le_of_under (tidy : Tidy base origin world) {top handle : Nat} (new : base ≤ top)
    (isUnder : world.Under top handle) : base ≤ handle := by
  induction isUnder with
  | refl => exact new
  | tail _ step inductionHypothesis => exact (tidy.child_new _ inductionHypothesis _ step).1

/-- The listener of a new object makes no difference to the others. -/
theorem listenAs {handle : Nat} (tidy : Tidy base origin world) (new : base ≤ handle)
    (inUse : world.InUse handle) (event : String) (callback : V.Callback) (once : Bool) :
    Tidy base origin (after (World.listenAs handle event callback once) world) := by
  have same := listenAs_sameStock world handle event callback once
  have faithful := listenAs_faithful handle event callback once world tidy.faithful
  unfold World.listenAs at same faithful ⊢
  rw [after_bind_ok (EStateM.run_get world)] at same faithful ⊢
  cases isHub : (world.object handle).hub with
  | none =>
      simp only [isHub]
      exact Keeps.bind (log _) (fun _ => .pure _) world tidy
  | some hub =>
      obtain ⟨id, final, ran, -, bus_eq⟩ :=
        listen_buses world hub event callback ⟨once, world.objectValue handle, .null⟩
      simp only [isHub] at same faithful ⊢
      rw [after_bind_ok ran] at same faithful ⊢
      change world.SameStock final at same
      change final.Faithful base at faithful
      change Tidy base origin final
      let added : Listener V.Callback := .make (listenerId (world.listenerIds + 1)) event
        callback ⟨once, world.objectValue handle, .null⟩ .null
      have mirrored (other : Nat) : ∃ ledger : Ledger V.Callback,
          Mirrors (world.hub other).bus ledger ∧ ∀ listener ∈ ledger, listener.id ≠ added.id := by
        obtain ⟨ledger, mirrors, listed⟩ := tidy.faithful other
        exact ⟨ledger, mirrors, fun listener member => (listed listener member).1.ne_next⟩
      refine ⟨faithful, ?_, fun other => ?_, ?_⟩
      · intro other listener member owner ownerNew isOwner
        unfold InUse
        rw [same.objects_eq, same.object_eq]
        obtain ⟨ledger, mirrors, fresh⟩ := mirrored other
        rw [bus_eq] at member
        by_cases here : other = hub ∧ other < world.hubs.size
        · rw [if_pos here, (mirrors.register fresh).mem_listeners] at member
          rcases List.mem_append.mp member with older | isNew
          · exact tidy.owner_inUse other listener (mirrors.mem_listeners.mpr older) owner
              ownerNew isOwner
          · rw [List.mem_singleton.mp isNew] at isOwner
            have isHandle : handle = owner := Option.some.inj isOwner
            exact isHandle ▸ inUse
        · rw [if_neg here] at member
          exact tidy.owner_inUse other listener member owner ownerNew isOwner
      · obtain ⟨ledger, mirrors, fresh⟩ := mirrored other
        rw [bus_eq]
        by_cases here : other = hub ∧ other < world.hubs.size
        · have dropped : (!added.isOwnedBy (base ≤ ·)) = false := by
            have isOwner : added.object? = some handle := rfl
            simp [Listener.isOwnedBy, isOwner, new]
          rw [if_pos here, mirrors.keep_register fresh dropped]
          exact tidy.bus_eq other
        · rw [if_neg here]
          exact tidy.bus_eq other
      · simp only [same.object_eq, same.objects_eq]
        exact tidy.child_new

theorem ownAct {top : Nat} (tidy : Tidy base origin world) (new : base ≤ top)
    (act : OwnAct top world later) : Tidy base origin later := by
  cases act with
  | listened handle event callback once isUnder inUse =>
      exact tidy.listenAs (tidy.le_of_under new isUnder) inUse event callback once
  | apart apart =>
      have same := apart.toSameStock
      refine tidy.transfer ?_ (by rw [same.objects_eq]) apart.bus_eq ?_ ?_
      · exact tidy.faithful.transfer apart.bus_eq apart.listenerIds_eq fun _ _ _ acts => by
          rw [same.object_eq]
          exact acts
      · intro handle _
        rw [same.object_eq]
      · simp only [same.object_eq, same.objects_eq]
        exact tidy.child_new

end Tidy

end World

end CommandHost
