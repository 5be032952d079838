import CommandHost.Proofs.Event.Stage
import CommandHost.Proofs.Object.Orderly
import CommandHost.Proofs.Object.Succession

/-!
# The objects that own listeners

An object that listens owns its listener, and loses it when it is disposed.  `Tended` says
that the objects of a module act on one bus, and that those that own listeners there are
in use; every move keeps it.  An object that is replaced, however, is neither disposed nor
registered any more.  So an owner is registered, and can be removed with its listeners,
exactly if no later object bears its id.
-/

namespace CommandHost

variable {V : Vocabulary}

/-- The object that owns a listener. -/
def Listener.object? {κ : Type} (listener : Listener κ) : Option Nat :=
  match listener.owner with
  | .object owner => some owner.index
  | _ => none

theorem Listener.object?_eq_some_iff {κ : Type} {listener : Listener κ} {handle : Nat} :
    listener.object? = some handle ↔ ∃ label, listener.owner = .object ⟨handle, label⟩ := by
  unfold Listener.object?
  constructor
  · intro isOwner
    split at isOwner
    · next owner sameOwner =>
        cases isOwner
        exact ⟨owner.label, sameOwner⟩
    · cases isOwner
  · intro ⟨label, isOwner⟩
    rw [isOwner]

namespace World

variable {place hub : Nat} {world later : World V} {owners : Nat → Prop}

/-! ## Owners -/

/-- The bus of a hub is in order, its ids are among those given out, and the objects that
own listeners on it are among some. -/
def OwnedBy (world : World V) (hub : Nat) (owners : Nat → Prop) : Prop :=
  ∃ ledger : Ledger V.Callback,
    Mirrors (world.hub hub).bus ledger ∧
      ∀ listener ∈ ledger,
        Account.IsGiven world.listenerIds listener.id ∧
          ∀ handle, listener.object? = some handle → owners handle

/-- An object owns a listener on the bus of a module. -/
def Owns (world : World V) (place handle : Nat) : Prop :=
  ∃ listener ∈ (world.hub (world.hubOf place)).bus.listeners, listener.object? = some handle

instance (world : World V) (place handle : Nat) : Decidable (world.Owns place handle) :=
  inferInstanceAs (Decidable (∃ listener ∈ _, _))

/-- The objects of a world and a module act on one bus.  Those that own listeners there
are among some, which are in use. -/
structure Tended (place hub : Nat) (owners : Nat → Prop) (world : World V) : Prop where
  hubOf_eq : world.hubOf place = hub
  hub_there : hub < world.hubs.size
  object_hub : ∀ handle < world.objects.size, (world.object handle).hub = some hub
  owned : world.OwnedBy hub owners
  inUse : ∀ handle, owners handle → world.InUse handle

/-- Some objects own listeners, and they are in use. -/
def IsTended (place hub : Nat) (world : World V) : Prop :=
  ∃ owners, world.Tended place hub owners

namespace OwnedBy

theorem mono {more : Nat → Prop} (owned : world.OwnedBy hub owners)
    (isMore : ∀ handle, owners handle → more handle) : world.OwnedBy hub more := by
  obtain ⟨ledger, mirrors, listed⟩ := owned
  refine ⟨ledger, mirrors, fun listener member => ⟨(listed listener member).1, ?_⟩⟩
  intro handle isOwner
  exact isMore handle ((listed listener member).2 handle isOwner)

theorem congr (owned : world.OwnedBy hub owners)
    (bus_eq : (later.hub hub).bus = (world.hub hub).bus)
    (listenerIds_eq : later.listenerIds = world.listenerIds) : later.OwnedBy hub owners := by
  unfold OwnedBy
  rw [bus_eq, listenerIds_eq]
  exact owned

theorem of_owns (owned : world.OwnedBy (world.hubOf place) owners) {handle : Nat}
    (owns : world.Owns place handle) : owners handle := by
  obtain ⟨ledger, mirrors, listed⟩ := owned
  obtain ⟨listener, member, isOwner⟩ := owns
  have inLedger := mirrors.mem_listeners.mp member
  exact (listed listener inLedger).2 handle isOwner

/-- An object whose listeners are released owns none. -/
theorem releaseOwner (owned : world.OwnedBy hub owners) (there : hub < world.hubs.size)
    (handle : Nat) :
    ∃ final,
      (World.releaseOwner hub (world.objectValue handle)).run world = .ok () final ∧
        final.hubs.size = world.hubs.size ∧
          final.OwnedBy hub fun other => owners other ∧ other ≠ handle := by
  obtain ⟨ledger, mirrors, listed⟩ := owned
  obtain ⟨final, ran, view⟩ := releaseOwner_busView there (world.objectValue handle)
  have bus_eq : (final.hub hub).bus =
      (world.hub hub).bus.removeOwner (world.objectValue handle) :=
    congrArg BusView.bus view
  have given_eq : final.listenerIds = world.listenerIds := congrArg BusView.listenerIds view
  refine ⟨final, ran, congrArg BusView.hubs view,
    ledger.withoutOwner (world.objectValue handle), ?_, ?_⟩
  · rw [bus_eq]
    exact mirrors.removeOwner _
  · intro listener member
    obtain ⟨inLedger, notReleased⟩ := List.mem_filter.mp member
    obtain ⟨isGiven, isOwned⟩ := listed listener inLedger
    refine ⟨given_eq ▸ isGiven, fun other isOwner => ⟨isOwned other isOwner, ?_⟩⟩
    intro isHandle
    obtain ⟨label, owner_eq⟩ := Listener.object?_eq_some_iff.mp isOwner
    simp [owner_eq, objectValue, Value.truthy, Value.same, Atom.same, isHandle] at notReleased

/-- A new listener adds its owner to the owners. -/
theorem listen (owned : world.OwnedBy hub owners) (there : hub < world.hubs.size)
    (event : String) (callback : V.Callback) (once : Bool) (handle : Nat) :
    ∃ id final,
      (World.listen hub event callback ⟨once, world.objectValue handle, .null⟩).run world =
          .ok id final ∧
        final.hubs.size = world.hubs.size ∧
          final.OwnedBy hub fun other => owners other ∨ other = handle := by
  obtain ⟨ledger, mirrors, listed⟩ := owned
  obtain ⟨final, ran, view⟩ :=
    listen_busView there event callback ⟨once, world.objectValue handle, .null⟩
  let added : Listener V.Callback :=
    .make (listenerId (world.listenerIds + 1)) event callback
      ⟨once, world.objectValue handle, .null⟩ .null
  have bus_eq : (final.hub hub).bus = (world.hub hub).bus.register added :=
    congrArg BusView.bus view
  have given_eq : final.listenerIds = world.listenerIds + 1 :=
    congrArg BusView.listenerIds view
  have fresh : ∀ other ∈ ledger, other.id ≠ added.id :=
    fun other member => (listed other member).1.ne_next
  refine ⟨_, final, ran, congrArg BusView.hubs view, ledger ++ [added], ?_, ?_⟩
  · rw [bus_eq]
    exact mirrors.register fresh
  · intro listener member
    rw [given_eq]
    rcases List.mem_append.mp member with older | isNew
    · obtain ⟨isGiven, isOwned⟩ := listed listener older
      refine ⟨isGiven.mono (Nat.le_succ _), fun other isOwner => ?_⟩
      exact .inl (isOwned other isOwner)
    · rw [List.mem_singleton.mp isNew]
      refine ⟨⟨world.listenerIds + 1, Nat.le_refl _, rfl⟩, fun other isOwner => ?_⟩
      exact .inr (Option.some.inj isOwner).symm

end OwnedBy

theorem Tended.of_sameStock {others : Nat → Prop} (tended : world.Tended place hub owners)
    (same : world.SameStock later) (hub_there : hub < later.hubs.size)
    (owned : later.OwnedBy hub others) (inUse : ∀ handle, others handle → world.InUse handle) :
    later.Tended place hub others := by
  refine ⟨(same.hubOf_eq place).trans tended.hubOf_eq, hub_there, ?_, owned, ?_⟩
  · intro handle there
    rw [same.objects_eq] at there
    rw [same.object_eq]
    exact tended.object_hub handle there
  · intro handle isOwner
    unfold InUse
    rw [same.objects_eq, same.object_eq]
    exact inUse handle isOwner

/-! ## Steps that touch no bus -/

theorem object_updateObject (world : World V) (handle other : Nat)
    (change : RuntimeObject V → RuntimeObject V) :
    (after (Effect.updateObject handle change) world).object other =
      if other = handle ∧ other < world.objects.size then change (world.object other)
      else world.object other := by
  change (World.mk (world.objects.modify handle change) ..).object other = _
  by_cases there : other < world.objects.size
  · by_cases same : other = handle
    · subst same
      simp [object, Array.getD, there, Array.getElem_modify_self]
    · simp [object, Array.getD, there, same, Array.getElem_modify_of_ne (Ne.symm same)]
  · simp [object, Array.getD, there]

/-- A change of an object that stays on its bus, and stays in use if it owns listeners. -/
theorem updateObject_tended {handle : Nat} {change : RuntimeObject V → RuntimeObject V}
    (sameHub : ∀ object, (change object).hub = object.hub)
    (sameUse : owners handle → ∀ object, (change object).disposed = object.disposed) :
    Keeps (Tended place hub owners) (Effect.updateObject handle change) := by
  intro world tended
  have object_eq (other : Nat) := object_updateObject world handle other change
  have size_eq :
      (after (Effect.updateObject handle change) world).objects.size = world.objects.size :=
    Array.size_modify
  refine ⟨tended.hubOf_eq, tended.hub_there, ?_, tended.owned.congr rfl rfl, ?_⟩
  · intro other there
    rw [size_eq] at there
    have acts := tended.object_hub other there
    rw [object_eq]
    by_cases same : other = handle ∧ other < world.objects.size
    · rw [if_pos same, sameHub]
      exact acts
    · rw [if_neg same]
      exact acts
  · intro other isOwner
    obtain ⟨there, inUse⟩ := tended.inUse other isOwner
    refine ⟨size_eq.symm ▸ there, ?_⟩
    rw [object_eq]
    by_cases same : other = handle ∧ other < world.objects.size
    · rw [if_pos same, sameUse (same.1 ▸ isOwner)]
      exact inUse
    · rw [if_neg same]
      exact inUse

theorem updateRegistry_tended (other : Nat) (change : Registry → Registry) :
    Keeps (Tended place hub owners) (Effect.updateRegistry other change : Effect V Unit) := by
  intro world tended
  have hubOf_eq :
      (after (Effect.updateRegistry other change) world).hubOf place = world.hubOf place := by
    have context_eq :
        ((world.modules.modify other fun found =>
          { found with registry := change found.registry }).getD place default).context =
            (world.modules.getD place default).context := by
      by_cases known : place < world.modules.size
      · by_cases same : other = place
        · simp [Array.getD, known, same, Array.getElem_modify_self]
        · simp [Array.getD, known, Array.getElem_modify_of_ne same]
      · simp [Array.getD, known]
    exact congrArg (fun found => (world.contexts.getD found default).hub) context_eq
  exact ⟨hubOf_eq.trans tended.hubOf_eq, tended.hub_there, tended.object_hub,
    tended.owned.congr rfl rfl, tended.inUse⟩

theorem log_tended (record : LogRecord) :
    Keeps (Tended place hub owners) (Effect.log record : Effect V Unit) :=
  fun _ tended => ⟨tended.hubOf_eq, tended.hub_there, tended.object_hub,
    tended.owned.congr rfl rfl, tended.inUse⟩

theorem append_tended (parent child : Nat) :
    Keeps (Tended place hub owners) (append parent child : Effect V Unit) :=
  .bind (updateObject_tended (fun _ => rfl) fun _ _ => rfl) fun _ =>
    updateObject_tended (fun _ => rfl) fun _ _ => rfl

theorem detach_tended (handle : Nat) :
    Keeps (Tended place hub owners) (detach handle : Effect V Unit) := by
  apply Keeps.look
  intro world tended
  cases (world.object handle).parent with
  | none => exact tended
  | some parent =>
      apply updateObject_tended _ _ world tended
      · exact fun _ => rfl
      · exact fun _ _ => rfl

theorem addObject_tended (other handle : Nat) :
    Keeps (Tended place hub owners) (addObject other handle : Effect V Unit) := by
  apply Keeps.look
  intro world tended
  have adds := @updateRegistry_tended V place hub owners other fun registry =>
    registry.add (world.object handle).id handle (world.object handle).listensToFrames
  exact Keeps.ite (.bind (log_tended _) fun _ => adds) adds world tended

theorem removeOwn_tended (other handle : Nat) :
    Keeps (Tended place hub owners) (removeOwn other handle : Effect V Unit) := by
  apply Keeps.look
  intro world tended
  exact updateRegistry_tended other _ world tended

theorem Keeps.isTended {α : Type} {act : Effect V α}
    (keeps : ∀ owners, Keeps (Tended place hub owners) act) :
    Keeps (IsTended place hub) act := by
  intro world ⟨owners, tended⟩
  exact ⟨owners, keeps owners world tended⟩

/-! ## Disposing -/

/-- A disposed object owns no listeners any more. -/
theorem retire_isTended (handle : Nat) :
    Keeps (IsTended place hub) (retire handle : Effect V Unit) := by
  apply Keeps.look
  intro world ⟨owners, tended⟩
  -- Without listeners of its own the object can be disposed.
  have disposes {others : Nat → Prop} (noOwner : ¬ others handle) :
      Keeps (Tended place hub others)
        (do
          detach handle
          Effect.updateObject handle fun object =>
            { object with children := [], parent := none, disposed := true } :
          Effect V Unit) :=
    .bind (detach_tended handle) fun _ =>
      updateObject_tended (fun _ => rfl) fun isOwner => absurd isOwner noOwner
  by_cases there : handle < world.objects.size
  · obtain ⟨released, ran, size_eq, owned⟩ :=
      tended.owned.releaseOwner tended.hub_there handle
    have same : world.SameStock released :=
      after_of_ok ran ▸ SameStock.releaseOwner hub _ world (.refl world)
    have releasedTended :
        released.Tended place hub fun other => owners other ∧ other ≠ handle :=
      tended.of_sameStock same (size_eq ▸ tended.hub_there) owned fun other isOwner =>
        tended.inUse other isOwner.1
    simp only [tended.object_hub handle there]
    rw [after_bind_ok ran]
    have noOwner : ¬ (owners handle ∧ handle ≠ handle) := fun isOwner => isOwner.2 rfl
    exact ⟨_, disposes noOwner released releasedTended⟩
  · have noHub : (world.object handle).hub = none := by
      simp [object, Array.getD, there]
      rfl
    have noOwner : ¬ owners handle := fun isOwner => there (tended.inUse handle isOwner).1
    simp only [noHub]
    exact ⟨owners, disposes noOwner world tended⟩

theorem disposeWithin_isTended (depth handle : Nat) :
    Keeps (IsTended place hub) (disposeWithin depth handle : Effect V Unit) := by
  induction depth generalizing handle with
  | zero => exact .throw _
  | succ depth inductionHypothesis =>
      apply Keeps.look
      intro world isTended
      exact Keeps.bind (.forM inductionHypothesis) (fun _ => retire_isTended handle)
        world isTended

theorem dispose_isTended (handle : Nat) :
    Keeps (IsTended place hub) (dispose handle : Effect V Unit) := by
  apply Keeps.look
  intro world isTended
  exact disposeWithin_isTended world.depthBound handle world isTended

theorem discard_isTended (other handle : Nat) :
    Keeps (IsTended place hub) (discard other handle : Effect V Unit) := by
  apply Keeps.look
  intro world isTended
  have takesOff (taken : Nat) :
      Keeps (IsTended place hub) (removeOwn other taken : Effect V Unit) :=
    .isTended fun _ => removeOwn_tended other taken
  exact Keeps.bind (.ofUse _)
    (fun _ => .bind (dispose_isTended handle) fun _ => .forM takesOff) world isTended

/-! ## Moves -/

theorem object_of_push {added : RuntimeObject V}
    (pushed : later.objects = world.objects.push added) (handle : Nat) :
    later.object handle =
      if handle = world.objects.size then added else world.object handle := by
  unfold object
  rw [pushed]
  by_cases last : handle = world.objects.size
  · simp [Array.getD, last]
  · by_cases there : handle < world.objects.size
    · simp [Array.getD, last, there, Array.getElem_push_lt there, Nat.lt_succ_of_lt there]
    · have notThere : ¬ handle < world.objects.size + 1 := by omega
      simp [Array.getD, last, there, notThere]

theorem enter_isTended (kind : ObjectClass V) (descriptor : Entries) (verbs : Verbs V.Verb)
    (isTended : world.IsTended place hub) :
    (after (enter place kind descriptor verbs (some hub)) world).IsTended place hub := by
  obtain ⟨owners, tended⟩ := isTended
  rcases construct_cases kind descriptor verbs (some hub) world with
    ⟨cause, refused⟩ | ⟨object, ids, built, ran⟩
  · rw [enter, after_of_error (run_bind_error refused)]
    exact ⟨owners, tended⟩
  have object_hub : object.hub = some hub := by
    obtain ⟨id, type, name, -, -, -, rfl⟩ := ofDescriptor_eq_ok_iff.mp built
    rfl
  have constructedTended :
      ({ world with objects := world.objects.push object, objectIds := ids } : World V).Tended
        place hub owners := by
    refine ⟨tended.hubOf_eq, tended.hub_there, ?_, tended.owned.congr rfl rfl, ?_⟩
    · intro handle there
      rw [@object_of_push V world _ _ rfl]
      by_cases isNew : handle = world.objects.size
      · rw [if_pos isNew]
        exact object_hub
      · have older : handle < world.objects.size := by
          rw [Array.size_push] at there
          omega
        rw [if_neg isNew]
        exact tended.object_hub handle older
    · intro handle isOwner
      obtain ⟨there, inUse⟩ := tended.inUse handle isOwner
      unfold InUse
      rw [@object_of_push V world _ _ rfl, if_neg there.ne, Array.size_push]
      exact ⟨Nat.lt_succ_of_lt there, inUse⟩
  rw [enter, after_bind_ok ran]
  exact ⟨owners, Keeps.bind (addObject_tended place world.objects.size)
    (fun _ => .pure world.objects.size) _ constructedTended⟩

theorem Act.isTended (isTended : world.IsTended place hub) (act : world.Act later) :
    later.IsTended place hub := by
  obtain ⟨owners, tended⟩ := isTended
  cases act with
  | listened handle event callback once inUse =>
      have same := listenAs_sameStock world handle event callback once
      obtain ⟨id, final, ran, size_eq, owned⟩ :=
        tended.owned.listen tended.hub_there event callback once handle
      have final_eq : after (listenAs handle event callback once) world = final := by
        unfold listenAs
        rw [after_bind_ok (EStateM.run_get world)]
        simp only [tended.object_hub handle inUse.1]
        rw [after_bind_ok ran]
        rfl
      rw [final_eq] at same ⊢
      refine ⟨_, tended.of_sameStock same (size_eq ▸ tended.hub_there) owned ?_⟩
      intro other isOwner
      rcases isOwner with older | isNew
      · exact tended.inUse other older
      · exact isNew ▸ inUse
  | apart apart =>
      refine ⟨owners, tended.of_sameStock apart.toSameStock ?_ ?_ tended.inUse⟩
      · rw [apart.hubs_size_eq]
        exact tended.hub_there
      · exact tended.owned.congr (apart.bus_eq hub) apart.listenerIds_eq

/-- Every move leaves listeners to objects that are in use. -/
theorem Move.isTended (isTended : world.IsTended place hub) (move : Move place world later) :
    later.IsTended place hub := by
  cases move with
  | entered _ kind descriptor verbs =>
      have hubOf_eq : world.hubOf place = hub := isTended.choose_spec.hubOf_eq
      rw [hubOf_eq]
      exact enter_isTended kind descriptor verbs isTended
  | @appended parent child _ _ =>
      exact Keeps.isTended (fun _ => append_tended parent child) world isTended
  | @discarded handle _ _ _ => exact discard_isTended place handle world isTended
  | acted act => exact act.isTended isTended

end World

end CommandHost
