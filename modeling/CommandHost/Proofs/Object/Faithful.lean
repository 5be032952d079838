import CommandHost.Proofs.Event.Keeping
import CommandHost.Proofs.Object.Ownership
import CommandHost.Proofs.Object.Upkeep

/-!
# Listeners on the bus of their owner

An object listens on the bus on which it acts, and nowhere else.  `World.Faithful` says
this of the objects from some place on, together with the order of the buses.  It does not
matter whether an object is registered, or disposed: creations, removals and listening
keep it, so that the listeners of an object can always be found on one bus.

What releasing does to a world is said exactly: one bus changes, and the journal.
-/

namespace CommandHost

variable {V : Vocabulary}

/-- An object for which a test succeeds owns the listener. -/
def Listener.isOwnedBy {κ : Type} (owns : Nat → Bool) (listener : Listener κ) : Bool :=
  listener.object?.any owns

/-- An owner is compared by its place. -/
theorem Listener.same_objectValue {κ : Type} (listener : Listener κ) (world : World V)
    (handle : Nat) :
    listener.owner.same (world.objectValue handle) = listener.isOwnedBy (· == handle) := by
  unfold isOwnedBy
  cases isObject : listener.object? with
  | some owner =>
      obtain ⟨label, isOwner⟩ := Listener.object?_eq_some_iff.mp isObject
      simp [isOwner, World.objectValue, Value.same, Atom.same]
  | none =>
      rw [Option.any_none]
      unfold Listener.object? at isObject
      cases isOwner : listener.owner with
      | atom content =>
          cases content with
          | object owner =>
              rw [isOwner] at isObject
              cases isObject
          | _ => simp [World.objectValue, Value.same, Atom.same, Atom.integer?]
      | list items => rfl
      | map entries => rfl

namespace World

variable {world middle later : World V} {base place hub : Nat}

/-! ## One bus -/

theorem hub_updateBus (world : World V) (hub other : Nat)
    (change : Bus V.Callback → Bus V.Callback) :
    (after (Effect.updateBus hub change) world).hub other =
      if other = hub ∧ other < world.hubs.size then
        { world.hub other with bus := change (world.hub other).bus }
      else world.hub other := by
  change (World.mk _ (world.hubs.modify hub fun found =>
    { found with bus := change found.bus }) ..).hub other = _
  by_cases there : other < world.hubs.size
  · by_cases same : other = hub
    · subst same
      simp [World.hub, Array.getD, there, Array.getElem_modify_self]
    · simp [World.hub, Array.getD, there, same, Array.getElem_modify_of_ne (Ne.symm same)]
  · simp [World.hub, Array.getD, there]

/-- A change of one bus, and of the journal. -/
structure Rebused (hub : Nat) (change : Bus V.Callback → Bus V.Callback)
    (world later : World V) : Prop where
  rest_eq : later = { world with hubs := later.hubs, journal := later.journal }
  size_eq : later.hubs.size = world.hubs.size
  hub_eq : ∀ other, later.hub other =
    if other = hub then { world.hub other with bus := change (world.hub other).bus }
    else world.hub other

namespace Rebused

variable {change further : Bus V.Callback → Bus V.Callback}

theorem of_unchanged (same : change (world.hub hub).bus = (world.hub hub).bus) :
    Rebused hub change world world where
  rest_eq := rfl
  size_eq := rfl
  hub_eq other := by
    by_cases isHub : other = hub
    · rw [if_pos isHub, isHub, same]
    · rw [if_neg isHub]

theorem congr (rebused : Rebused hub change world later)
    (same : change (world.hub hub).bus = further (world.hub hub).bus) :
    Rebused hub further world later where
  rest_eq := rebused.rest_eq
  size_eq := rebused.size_eq
  hub_eq other := by
    rw [rebused.hub_eq]
    by_cases isHub : other = hub
    · rw [if_pos isHub, if_pos isHub, isHub, same]
    · rw [if_neg isHub, if_neg isHub]

theorem updateBus (present : hub < world.hubs.size) :
    Rebused hub change world (after (Effect.updateBus hub change) world) where
  rest_eq := rfl
  size_eq := Array.size_modify
  hub_eq other := by
    rw [hub_updateBus]
    by_cases isHub : other = hub
    · rw [if_pos ⟨isHub, isHub ▸ present⟩, if_pos isHub]
    · rw [if_neg fun both => isHub both.1, if_neg isHub]

theorem log (rebused : Rebused hub change world middle) (asked : Bool) (record : LogRecord) :
    Rebused hub change world
      (after (if asked then Effect.log record else pure () : Effect V Unit) middle) := by
  cases asked
  · exact rebused
  · exact ⟨congrArg (fun later : World V =>
      { later with journal := middle.journal.push (.log record) }) rebused.rest_eq,
      rebused.size_eq, rebused.hub_eq⟩

theorem trans (first : Rebused hub change world middle)
    (second : Rebused hub further middle later) :
    Rebused hub (fun bus => further (change bus)) world later where
  rest_eq := second.rest_eq.trans
    (congrArg (fun middle : World V =>
      { middle with hubs := later.hubs, journal := later.journal }) first.rest_eq)
  size_eq := second.size_eq.trans first.size_eq
  hub_eq other := by
    rw [second.hub_eq, first.hub_eq]
    by_cases isHub : other = hub
    · simp only [if_pos isHub]
    · simp only [if_neg isHub]

variable (rebused : Rebused hub change world later)

include rebused

theorem listenerIds_eq : later.listenerIds = world.listenerIds := by
  rw [rebused.rest_eq]

theorem sameStock : world.SameStock later := by
  rw [rebused.rest_eq]
  exact ⟨rfl, rfl, rfl⟩

end Rebused

theorem release_rebused (world : World V) (hub : Nat) (id : String) :
    ∃ final,
      (release hub id).run world = .ok () final ∧
        Rebused hub (fun bus => bus.remove id) world final := by
  unfold release
  rw [run_bind_ok (EStateM.run_get world)]
  cases known : (world.hub hub).bus.index.get? id with
  | none =>
      exact ⟨world, by simp [known], .of_unchanged (Bus.remove_eq_self known)⟩
  | some event =>
      have present : hub < world.hubs.size := by
        by_contra absent
        have isDefault : world.hub hub = default := by simp [World.hub, Array.getD, absent]
        rw [isDefault] at known
        cases known
      simp only [known]
      exact ⟨_, by cases (world.hub hub).busConfig.logRemove <;> rfl,
        (Rebused.updateBus present).log (world.hub hub).busConfig.logRemove _⟩

theorem releaseAll_rebused (world : World V) (hub : Nat) (ids : List String) :
    ∃ final,
      (releaseAll hub ids).run world = .ok () final ∧
        Rebused hub (fun bus => ids.foldl Bus.remove bus) world final := by
  induction ids generalizing world with
  | nil => exact ⟨world, rfl, .of_unchanged rfl⟩
  | cons id rest inductionHypothesis =>
      obtain ⟨middle, released, first⟩ := release_rebused world hub id
      obtain ⟨final, releasedRest, further⟩ := inductionHypothesis middle
      refine ⟨final, ?_, first.trans further⟩
      rw [releaseAll, List.forM_eq_forM, List.forM_cons, run_bind_ok released]
      exact releasedRest

theorem releaseOwner_rebused (world : World V) (hub : Nat) (owner : Value) :
    ∃ final,
      (releaseOwner hub owner).run world = .ok () final ∧
        Rebused hub (fun bus => bus.removeOwner owner) world final := by
  obtain ⟨final, released, rebused⟩ :=
    releaseAll_rebused world hub ((world.hub hub).bus.ownedIds owner)
  refine ⟨final, ?_, rebused.congr rfl⟩
  rw [releaseOwner, run_bind_ok (EStateM.run_get world)]
  exact released

/-! ## Listeners and their owners -/

/-- The buses are in order, their ids are among those given out, and the objects from some
place on own listeners only on the bus on which they act. -/
def Faithful (base : Nat) (world : World V) : Prop :=
  ∀ hub, ∃ ledger : Ledger V.Callback,
    Mirrors (world.hub hub).bus ledger ∧
      ∀ listener ∈ ledger,
        Account.IsGiven world.listenerIds listener.id ∧
          ∀ handle, base ≤ handle → listener.object? = some handle →
            (world.object handle).hub = some hub

namespace Faithful

/-- Only the buses, the ids given out, and where owners act matter. -/
theorem transfer (faithful : world.Faithful base)
    (bus_eq : ∀ hub, (later.hub hub).bus = (world.hub hub).bus)
    (given_eq : later.listenerIds = world.listenerIds)
    (stays : ∀ handle hub, base ≤ handle → (world.object handle).hub = some hub →
      (later.object handle).hub = some hub) : later.Faithful base := by
  intro hub
  obtain ⟨ledger, mirrors, listed⟩ := faithful hub
  refine ⟨ledger, (bus_eq hub).symm ▸ mirrors, fun listener member => ?_⟩
  obtain ⟨isGiven, acts⟩ := listed listener member
  exact ⟨given_eq ▸ isGiven, fun handle new isOwner =>
    stays handle hub new (acts handle new isOwner)⟩

/-- Buses without listeners are in order. -/
theorem of_empty (empty : ∀ hub, (world.hub hub).bus = .empty) : world.Faithful base :=
  fun hub => ⟨[], (empty hub).symm ▸ .empty, fun _ member => absurd member List.not_mem_nil⟩

theorem rebused {change : Bus V.Callback → Bus V.Callback} (faithful : world.Faithful base)
    (rebused : Rebused hub change world later)
    (releases : ∀ ledger, Mirrors (world.hub hub).bus ledger →
      ∃ left, Mirrors (change (world.hub hub).bus) left ∧
        ∀ listener ∈ left, listener ∈ ledger) : later.Faithful base := by
  intro other
  obtain ⟨ledger, mirrors, listed⟩ := faithful other
  rw [rebused.hub_eq, rebused.listenerIds_eq]
  simp only [rebused.sameStock.object_eq]
  by_cases isHub : other = hub
  · subst isHub
    obtain ⟨left, leftMirrors, isLeft⟩ := releases ledger mirrors
    rw [if_pos rfl]
    exact ⟨left, leftMirrors, fun listener member => listed listener (isLeft listener member)⟩
  · rw [if_neg isHub]
    exact ⟨ledger, mirrors, listed⟩

end Faithful

theorem upheld_faithful (place base : Nat) : Upheld place (@Faithful V base) where
  log record world faithful := faithful.transfer (fun _ => rfl) rfl fun _ _ _ acts => acts
  relink handle change relinked world faithful := by
    refine faithful.transfer (fun _ => rfl) rfl fun other hub _ acts => ?_
    rw [object_updateObject]
    by_cases same : other = handle ∧ other < world.objects.size
    · rw [if_pos same, relinked (world.object other)]
      exact acts
    · rw [if_neg same]
      exact acts
  registry change world faithful :=
    faithful.transfer (fun _ => rfl) rfl fun _ _ _ acts => acts
  releaseOwner hub owner world faithful := by
    obtain ⟨final, ran, rebused⟩ := releaseOwner_rebused world hub owner
    rw [after_of_ok ran]
    exact faithful.rebused rebused fun ledger mirrors =>
      ⟨_, mirrors.removeOwner owner, fun listener member => (List.mem_filter.mp member).1⟩

/-- A disposal releases all listeners of the object, since they are on its own bus, and
then only changes links. -/
theorem retire_after (faithful : world.Faithful base) {handle : Nat} (new : base ≤ handle) :
    ∃ released,
      after (retire handle) world =
          after
            (do
              detach handle
              Effect.updateObject handle fun object =>
                { object with children := [], parent := none, disposed := true } :
              Effect V Unit) released ∧
        world.SameStock released ∧ released.hubs.size = world.hubs.size ∧
          ∀ hub, (released.hub hub).bus =
            (world.hub hub).bus.keep fun listener => !listener.isOwnedBy (· == handle) := by
  -- On a bus where the object does not act it owns nothing.
  have elsewhere (other : Nat) (different : (world.object handle).hub ≠ some other) :
      (world.hub other).bus.keep (fun listener => !listener.isOwnedBy (· == handle)) =
        (world.hub other).bus := by
    obtain ⟨ledger, mirrors, listed⟩ := faithful other
    refine mirrors.keep_eq_self fun listener member => ?_
    rw [Bool.not_eq_true', Listener.isOwnedBy, Option.any_eq_false]
    intro owner isOwner
    rw [beq_eq_false_iff_ne]
    rintro rfl
    exact different ((listed listener member).2 owner new isOwner)
  unfold retire
  rw [after_bind_ok (EStateM.run_get world)]
  cases isHub : (world.object handle).hub with
  | none =>
      refine ⟨world, rfl, .refl world, rfl, fun other => ?_⟩
      rw [elsewhere other (by simp [isHub])]
  | some hub =>
      obtain ⟨released, ran, rebused⟩ :=
        releaseOwner_rebused world hub (world.objectValue handle)
      refine ⟨released, ?_, rebused.sameStock, rebused.size_eq, fun other => ?_⟩
      · simp only
        rw [after_bind_ok ran]
      · rw [rebused.hub_eq]
        by_cases same : other = hub
        · subst same
          obtain ⟨ledger, mirrors, -⟩ := faithful other
          rw [if_pos rfl]
          simp only
          rw [mirrors.removeOwner_eq_keep]
          refine Bus.keep_congr fun listener _ => ?_
          have counts : (world.objectValue handle).truthy = true := rfl
          rw [counts, Bool.true_and, Listener.same_objectValue]
        · rw [if_neg same, elsewhere other (by simpa [isHub] using Ne.symm same)]

/-- Building an object takes the listeners of none. -/
theorem construct_faithful (kind : ObjectClass V) (descriptor : Entries)
    (verbs : Verbs V.Verb) (hub : Option Nat) :
    Keeps (Faithful base) (construct kind descriptor verbs hub) := by
  intro world faithful
  rcases construct_cases kind descriptor verbs hub world with
    ⟨cause, refused⟩ | ⟨added, ids, -, ran⟩
  · rw [after_of_error refused]
    exact faithful
  rw [after_of_ok ran]
  refine faithful.transfer (fun _ => rfl) rfl fun handle other _ acts => ?_
  have older : handle ≠ world.objects.size := by
    rintro rfl
    have noHub : (world.object world.objects.size).hub = none := by
      simp [object, Array.getD]
      rfl
    rw [noHub] at acts
    cases acts
  rw [@object_of_push V world _ _ rfl, if_neg older]
  exact acts

/-- What listening does to the buses. -/
theorem listen_buses (world : World V) (hub : Nat) (event : String) (callback : V.Callback)
    (options : ListenerOptions) :
    ∃ id final,
      (listen hub event callback options).run world = .ok id final ∧
        final.listenerIds = world.listenerIds + 1 ∧
          ∀ other, (final.hub other).bus =
            if other = hub ∧ other < world.hubs.size then
              (world.hub other).bus.register
                (.make (listenerId (world.listenerIds + 1)) event callback options .null)
            else (world.hub other).bus := by
  let counted : World V := { world with listenerIds := world.listenerIds + 1 }
  let added : Listener V.Callback :=
    .make (listenerId (world.listenerIds + 1)) event callback options .null
  let registered := after (Effect.updateBus hub fun bus => bus.register added) counted
  have bus_eq (other : Nat) : (registered.hub other).bus =
      if other = hub ∧ other < world.hubs.size then (world.hub other).bus.register added
      else (world.hub other).bus := by
    rw [hub_updateBus]
    by_cases isHub : other = hub ∧ other < counted.hubs.size
    · rw [if_pos isHub, if_pos (show other = hub ∧ other < world.hubs.size from isHub)]
      rfl
    · rw [if_neg isHub, if_neg (show ¬ (other = hub ∧ other < world.hubs.size) from isHub)]
      rfl
  have counting : (set counted : Effect V PUnit).run world = .ok .unit counted := rfl
  have updating : (Effect.updateBus hub fun bus => bus.register added).run counted =
      .ok () registered := rfl
  unfold listen
  rw [run_bind_ok (EStateM.run_get world), run_bind_ok counting, run_bind_ok updating]
  by_cases asked : (world.hub hub).busConfig.logRegister = true
  · rw [if_pos asked]
    exact ⟨_, _, rfl, rfl, bus_eq⟩
  · rw [if_neg asked]
    exact ⟨_, registered, rfl, rfl, bus_eq⟩

/-- An object that listens does so on its own bus, also if it is disposed. -/
theorem listenAs_faithful (handle : Nat) (event : String) (callback : V.Callback)
    (once : Bool) : Keeps (Faithful base) (listenAs handle event callback once) := by
  intro world faithful
  have same := listenAs_sameStock world handle event callback once
  unfold listenAs at same ⊢
  rw [after_bind_ok (EStateM.run_get world)] at same ⊢
  cases isHub : (world.object handle).hub with
  | none =>
      simp only [isHub]
      exact (upheld_faithful 0 base).log _ world faithful
  | some hub =>
      obtain ⟨id, final, ran, given_eq, bus_eq⟩ :=
        listen_buses world hub event callback ⟨once, world.objectValue handle, .null⟩
      simp only [isHub] at same ⊢
      rw [after_bind_ok ran] at same ⊢
      intro other
      obtain ⟨ledger, mirrors, listed⟩ := faithful other
      have object_eq (owner : Nat) : final.object owner = world.object owner :=
        same.object_eq owner
      change ∃ left, Mirrors (final.hub other).bus left ∧ ∀ listener ∈ left,
        Account.IsGiven final.listenerIds listener.id ∧ ∀ owner, base ≤ owner →
          listener.object? = some owner → (final.object owner).hub = some other
      rw [bus_eq, given_eq]
      simp only [object_eq]
      by_cases here : other = hub ∧ other < world.hubs.size
      · rw [if_pos here]
        refine ⟨_, mirrors.register fun other member => (listed other member).1.ne_next, ?_⟩
        intro listener member
        rcases List.mem_append.mp member with older | isNew
        · exact ⟨(listed listener older).1.mono (Nat.le_succ _), (listed listener older).2⟩
        · rw [List.mem_singleton.mp isNew]
          refine ⟨⟨world.listenerIds + 1, Nat.le_refl _, rfl⟩, fun owner _ isOwner => ?_⟩
          have isHandle : handle = owner := Option.some.inj isOwner
          rw [← isHandle, here.1]
          exact isHub
      · rw [if_neg here]
        exact ⟨ledger, mirrors, fun listener member =>
          ⟨(listed listener member).1.mono (Nat.le_succ _), (listed listener member).2⟩⟩

/-! ## Runs in which all objects may listen -/

end World

/-- The hooks of a host leave the objects and the registry of a module alone, and let
objects listen only on the buses on which they act. -/
structure Host.Attentive (host : Host V) (place : Nat) : Prop where
  quiet : host.Quiet place
  faithful : ∀ hook handle, World.Keeps (World.Faithful 0) (host.hook hook handle)

namespace World

variable {host : Host V}

/-- The worlds in which a module can be that was new, whose objects were created and
removed, and any of whose objects listened, with other changes in between that leave the
objects alone. -/
inductive Attended (host : Host V) (place : Nat) : World V → Prop where
  | new {world : World V} (known : place < world.modules.size)
      (empty : (world.moduleOf place).registry = .empty)
      (alone : ∀ handle, (world.object handle).node.IsAlone)
      (faithful : world.Faithful 0) : Attended host place world
  | created {world : World V} (attended : Attended host place world) (data : Value) :
      Attended host place (after (create host place data) world)
  | removed {world : World V} (attended : Attended host place world) (id : String) :
      Attended host place (after (remove place id) world)
  | listened {world : World V} (attended : Attended host place world) (handle : Nat)
      (event : String) (callback : V.Callback) (once : Bool) :
      Attended host place (after (listenAs handle event callback once) world)
  | changed {world later : World V} (attended : Attended host place world)
      (unmoved : (world.scene place).Unmoved (later.scene place))
      (faithful : later.Faithful 0) : Attended host place later

theorem Attended.populated (attended : Attended host place world) :
    Populated host place world := by
  induction attended with
  | new known empty alone _ => exact .new known empty alone
  | created _ data inductionHypothesis => exact .created inductionHypothesis data
  | removed _ id inductionHypothesis => exact .removed inductionHypothesis id
  | @listened world _ handle event callback once inductionHypothesis =>
      have same := listenAs_sameStock world handle event callback once
      exact .changed inductionHypothesis (unmoved_of_scene_eq (same.scene_eq place))
  | changed _ unmoved _ inductionHypothesis => exact .changed inductionHypothesis unmoved

theorem Attended.faithful (attentive : host.Attentive place)
    (attended : Attended host place world) : world.Faithful 0 := by
  have upholds : host.Upholds place (Faithful 0) :=
    { upheld_faithful place 0 with
      construct := fun kind descriptor verbs hub =>
        construct_faithful kind descriptor verbs (some hub)
      hook := attentive.faithful }
  induction attended with
  | new _ _ _ faithful => exact faithful
  | created _ data inductionHypothesis => exact upholds.maintains.create data _ inductionHypothesis
  | removed _ id inductionHypothesis => exact upholds.maintains.remove id _ inductionHypothesis
  | listened _ handle event callback once inductionHypothesis =>
      exact listenAs_faithful handle event callback once _ inductionHypothesis
  | changed _ _ faithful _ => exact faithful

end World

end CommandHost
