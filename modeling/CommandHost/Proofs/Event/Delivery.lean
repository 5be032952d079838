import CommandHost.Proofs.Command.Accessors
import CommandHost.Proofs.Event.Run

/-!
# Delivery to the listeners at the start

The listeners that a fire calls may register and release listeners, clear the bus and
fire again, and they may fail.  None of that has a say in whom the fire calls: it
calls exactly the listeners that its event had when it began.  What it leaves on the
bus is what its last listener left there, less those listeners that it released
because they are for one delivery.

One thing stops it: a listener whose failure cannot be told.  Then the fire fails at that
listener, those behind it are not called, and nobody is released.
-/

namespace CommandHost

variable {κ : Type}

/-- The worlds to which code over a bus leads that is empty at first. In between the
rest of the world may change. -/
inductive Reached (hub : Nat) : World (observed κ) → Prop where
  | empty {world : World (observed κ)} (present : hub < world.hubs.size)
      (nobody : (world.hub hub).bus = .empty) : Reached hub world
  | ran {world : World (observed κ)} (reached : Reached hub world)
      (behaviour : Behaviour κ) (depth : Nat) (code : Code κ) :
      Reached hub (World.after (code.run (behaviour.host hub depth) hub) world)
  | changed {world other : World (observed κ)} (reached : Reached hub world)
      (sameHubs : other.hubs.size = world.hubs.size)
      (sameBus : (other.hub hub).bus = (world.hub hub).bus)
      (notFewer : world.listenerIds ≤ other.listenerIds) : Reached hub other

/-- In a world that is reached the hub is there, and some ledger accounts for its bus. -/
theorem Reached.agrees {hub : Nat} {world : World (observed κ)}
    (reached : Reached hub world) :
    hub < world.hubs.size ∧
      ∃ ledger : Ledger (Observed κ),
        Account.Agrees ⟨ledger, [], []⟩ (world.stage hub []) := by
  induction reached with
  | @empty world present nobody =>
      refine ⟨present, [], ?_⟩
      rw [World.stage, nobody]
      exact .empty world.listenerIds
  | @ran world _ behaviour depth code inductionHypothesis =>
      obtain ⟨present, ledger, agrees⟩ := inductionHypothesis
      obtain ⟨moments, leads⟩ :=
        World.run_narrates (World.behaviour_conducts behaviour hub depth) code world present
      have after := agrees.steps (leads []).steps
      exact ⟨(leads []).hubs_eq ▸ present,
        (Account.afterAll ⟨ledger, [], []⟩ moments).ledger,
        after.mirrors, rfl, after.ledger_named, after.waiting_named, after.waiting_subset⟩
  | @changed world other _ sameHubs sameBus notFewer inductionHypothesis =>
      obtain ⟨present, ledger, agrees⟩ := inductionHypothesis
      refine ⟨sameHubs ▸ present, ledger, ?_, rfl, ?_, by simp [World.stage],
        by simp [World.stage]⟩
      · rw [World.stage, sameBus]
        exact agrees.mirrors
      · intro listener member
        exact (agrees.ledger_named listener member).mono notFewer

/-- What a fire does to the listeners of a bus, given the moments up to the end of its
last listener. -/
structure Delivers (start : Bus (Observed κ)) (event : String) (payload : Value)
    (moments : List (Moment κ)) (final : Bus (Observed κ)) : Prop where
  /-- The listeners at the start are called in order, and nobody else is. -/
  calls : ownCalls 0 moments =
    (start.listenersOf event).map fun listener => (listener.id, payload)
  calls_nodup : ((ownCalls 0 moments).map Prod.fst).Nodup
  once_gone : ∀ listener ∈ start.listenersOf event, listener.once = true →
    final.index.has listener.id = false ∧
      ∀ other, ∀ left ∈ final.listenersOf other, left.id ≠ listener.id
  others_stay : ∀ other,
    final.listenersOf other =
      ((lastBus start moments).listenersOf other).filter fun listener =>
        listener.id ∉ onceIds (start.listenersOf event)
  index_stays :
    final.index =
      (lastBus start moments).index.filter fun entry =>
        entry.1 ∉ onceIds (start.listenersOf event)

/-- What a fire does that fails for a cause: it stops at a listener whose failure cannot be
told for that cause. -/
inductive BreaksOff (host : Host (observed κ)) (hub : Nat) (start : Bus (Observed κ))
    (event : String) (payload : Value) (moments : List (Moment κ)) (cause : Fault)
    (final : World (observed κ)) : Prop where
  /-- The listeners up to the one that fails are called in order, and nobody else is; nobody
  is released afterwards. -/
  | stopped (told : Ledger (Observed κ)) (culprit : Listener (Observed κ))
      (missed : Ledger (Observed κ)) (before : World (observed κ))
      (row_eq : start.listenersOf event = told ++ culprit :: missed)
      (calls : ownCalls 0 moments =
        (told ++ [culprit]).map fun listener => (listener.id, payload))
      (untold : World.Turn host event payload culprit before (.error cause final))
      (bus_eq : (final.hub hub).bus = lastBus start moments)

namespace World

variable {hub : Nat} {world : World (observed κ)} {ledger : Ledger (Observed κ)}
variable {event : String} {payload : Value}

theorem calls_eq_ids (agrees : Account.Agrees ⟨ledger, [], []⟩ (world.stage hub []))
    {called missed : Ledger (Observed κ)}
    (split : (world.hub hub).bus.listenersOf event = called ++ missed) :
    called.map (fun listener => (listener.callback.id, payload)) =
      called.map fun listener => (listener.id, payload) := by
  have starting : (world.hub hub).bus.listenersOf event = ledger.ofEvent event :=
    agrees.mirrors.listenersOf_eq event
  apply List.map_congr_left
  intro listener member
  have listed : listener ∈ ledger.ofEvent event := by
    rw [← starting, split]
    exact List.mem_append_left missed member
  rw [(agrees.ledger_named listener (Ledger.mem_ofEvent.mp listed).1).callback_id]

/-- A fire delivers to the listeners that its event has at the start, whatever they do, exactly
if none of them fails without a text; otherwise it breaks off at the first one that does. -/
theorem fire_delivers_iff (behaviour : Behaviour κ) (depth : Nat) {hub : Nat}
    {world : World (observed κ)} (reached : Reached hub world) (event : String)
    (payload : Value) :
    ((∃ moments final,
        (fire (behaviour.host hub depth) hub event payload).run world = .ok () final ∧
          final.memory = world.memory ++ moments ∧
          Delivers (world.hub hub).bus event payload moments (final.hub hub).bus) ↔
      AllTell (behaviour.host hub depth) event payload ((world.hub hub).bus.listenersOf event)
        (world.announced hub event payload)) ∧
      ((∃ moments cause final,
          (fire (behaviour.host hub depth) hub event payload).run world = .error cause final ∧
            final.memory = world.memory ++ moments ∧
            BreaksOff (behaviour.host hub depth) hub (world.hub hub).bus event payload moments
              cause final) ↔
        ¬ AllTell (behaviour.host hub depth) event payload
          ((world.hub hub).bus.listenersOf event) (world.announced hub event payload)) := by
  obtain ⟨present, ledger, agrees⟩ := reached.agrees
  obtain ⟨moments, called, missed, delivered, split, calls, ends, leads⟩ :=
    fire_leads (behaviour_conducts behaviour hub depth) present event payload
  have begun := agrees.step (.begin (world.stage hub []) event payload)
  have mirrors : Mirrors (delivered.hub hub).bus _ :=
    (begun.steps (leads []).steps).mirrors
  have lastIsDelivered : lastBus (world.hub hub).bus moments = (delivered.hub hub).bus :=
    (leads []).steps.lastBus_eq
  rw [calls_eq_ids agrees split] at calls
  rw [← fire_returns_iff]
  generalize outcome : (fire (behaviour.host hub depth) hub event payload).run world = result
    at ends ⊢
  cases ends with
  | @completed final released =>
      refine ⟨iff_of_true ⟨moments, final, rfl, ?_, ?_⟩ ⟨final, rfl⟩,
        iff_of_false nofun (not_not_intro ⟨final, rfl⟩)⟩
      · exact (congrArg BusView.memory released).trans (leads []).memory_eq
      · have finalBus : (final.hub hub).bus =
            (onceIds ((world.hub hub).bus.listenersOf event)).foldl Bus.remove
              (delivered.hub hub).bus :=
          congrArg BusView.bus released
        have keeps :=
          mirrors.removeAll_keeps (onceIds ((world.hub hub).bus.listenersOf event))
        rw [← finalBus, ← lastIsDelivered] at keeps
        refine ⟨calls, ?_, ?_, keeps.1, keeps.2⟩
        · have starting : (world.hub hub).bus.listenersOf event = ledger.ofEvent event :=
            agrees.mirrors.listenersOf_eq event
          rw [calls, starting, List.map_map]
          exact agrees.mirrors.ofEvent_ids_nodup event
        · intro listener member once
          rw [finalBus]
          exact mirrors.removeAll_gone (mem_onceIds member once)
  | @broken told culprit before cause untold missed =>
      refine ⟨iff_of_false nofun nofun,
        iff_of_true ⟨moments, cause, delivered, rfl, (leads []).memory_eq, ?_⟩ nofun⟩
      refine .stopped told culprit missed before ?_ calls untold lastIsDelivered.symm
      rw [split, List.append_assoc]
      rfl

end World

/-! ## Listeners that can tell why they fail -/

/-- A failure that can be told. -/
def Fault.IsTold (fault : Fault) : Prop := ∃ text, fault.toText = .ok text

/-- Code of which each failure of its own can be told. -/
def Code.TellsFailures : Code κ → Prop
  | .done => True
  | .fail fault => fault.IsTold
  | .look next => ∀ history bus, (next history bus).TellsFailures
  | .listen _ _ _ next => ∀ id, (next id).TellsFailures
  | .release _ next | .releaseOwner _ next | .drop next => next.TellsFailures
  | .fire _ _ next => (next none).TellsFailures

namespace World

variable {hub : Nat} {host : Host (observed κ)}

/-- The listeners of a host fail for causes that can be told. -/
def CanTell (hub : Nat) (host : Host (observed κ)) : Prop :=
  ∀ who payload (world : World (observed κ)), hub < world.hubs.size →
    ∀ fault final, (host.callback who payload).run world = .error fault final → fault.IsTold

theorem CanTell.turn_run (tells : CanTell hub host) (event : String) (payload : Value)
    (listener : Listener (Observed κ)) {world : World (observed κ)}
    (present : hub < world.hubs.size) :
    ∃ later, (turn host event payload listener).run world = .ok () later := by
  have comes := World.turn_run host event payload listener world
  generalize (turn host event payload listener).run world = outcome at comes ⊢
  cases comes with
  | returned ran => exact ⟨_, rfl⟩
  | told failed written => exact ⟨_, rfl⟩
  | untold failed unwritten =>
      obtain ⟨text, written⟩ := tells _ _ _ present _ _ failed
      cases written.symm.trans unwritten

theorem CanTell.allTell (tells : CanTell hub host) (conducts : Conducts hub host)
    (event : String) (payload : Value) (listeners : Ledger (Observed κ))
    {world : World (observed κ)} (present : hub < world.hubs.size) :
    AllTell host event payload listeners world := by
  induction listeners generalizing world with
  | nil => exact .nil world
  | cons listener rest inductionHypothesis =>
      obtain ⟨later, ran⟩ := tells.turn_run event payload listener present
      have comes := World.turn_run host event payload listener world
      have sameHubs : later.hubs.size = world.hubs.size := by
        obtain ⟨inner, innerLeads⟩ := conducts listener.callback payload world present
        rw [← after_of_ok ran]
        exact (congrArg BusView.hubs (turn_busView host event payload listener world hub)).trans
          (innerLeads []).hubs_eq
      rw [ran] at comes
      exact .cons comes (@inductionHypothesis later (sameHubs ▸ present))

/-- Where all listeners can tell why they fail, fires return. -/
theorem CanTell.fire_returns (tells : CanTell hub host) (conducts : Conducts hub host)
    {world : World (observed κ)} (present : hub < world.hubs.size) (event : String)
    (payload : Value) : ∃ final, (fire host hub event payload).run world = .ok () final := by
  have sameHubs : (world.announced hub event payload).hubs.size = world.hubs.size :=
    congrArg BusView.hubs (world.busView_announced hub event payload)
  exact fire_returns_iff.mpr
    (tells.allTell conducts event payload _ (sameHubs ▸ present))

/-- What follows an operation on the bus that is noted down. -/
theorem run_operation {α : Type} {operation : Effect (observed κ) α} {value : α}
    {world middle : World (observed κ)} (ran : operation.run world = .ok value middle)
    (deed : α → Deed κ) (next : α → Effect (observed κ) Unit) :
    (do
      let value ← operation
      note hub (deed value)
      next value).run world = (next value).run (middle.noted hub (deed value)) := by
  rw [run_bind_ok ran, run_bind_ok (note_run middle hub _)]

/-- Where all listeners can tell why they fail, code fails only with failures of its own. -/
theorem run_told (tells : CanTell hub host) (conducts : Conducts hub host) {code : Code κ}
    (codeTells : code.TellsFailures) {world final : World (observed κ)}
    (present : hub < world.hubs.size) {fault : Fault}
    (failed : (code.run host hub).run world = .error fault final) : fault.IsTold := by
  induction code generalizing world with
  | done => cases failed
  | fail fault =>
      cases failed
      exact codeTells
  | look next inductionHypothesis =>
      rw [Code.run, run_bind_ok (EStateM.run_get world)] at failed
      exact inductionHypothesis _ _ (codeTells _ _) present failed
  | listen event name options next inductionHypothesis =>
      obtain ⟨middle, ran, view⟩ :=
        listen_busView present event ⟨listenerId (world.listenerIds + 1), name⟩ options
      have sameHubs : middle.hubs.size = world.hubs.size := congrArg BusView.hubs view
      rw [Code.run, run_bind_ok (EStateM.run_get world)] at failed
      exact inductionHypothesis _ (codeTells _) (sameHubs ▸ present)
        ((run_operation ran _ _).symm.trans failed)
  | release id next inductionHypothesis =>
      obtain ⟨middle, ran, view⟩ := release_busView present id
      have sameHubs : middle.hubs.size = world.hubs.size := congrArg BusView.hubs view
      exact inductionHypothesis codeTells (sameHubs ▸ present)
        ((run_operation ran _ _).symm.trans failed)
  | releaseOwner owner next inductionHypothesis =>
      obtain ⟨middle, ran, view⟩ := releaseOwner_busView present owner
      have sameHubs : middle.hubs.size = world.hubs.size := congrArg BusView.hubs view
      exact inductionHypothesis codeTells (sameHubs ▸ present)
        ((run_operation ran _ _).symm.trans failed)
  | drop next inductionHypothesis =>
      obtain ⟨middle, ran, view⟩ := dropListeners_busView present
      have sameHubs : middle.hubs.size = world.hubs.size := congrArg BusView.hubs view
      exact inductionHypothesis codeTells (sameHubs ▸ present)
        ((run_operation ran _ _).symm.trans failed)
  | fire event payload next inductionHypothesis =>
      have noted : hub < (world.noted hub (.began event payload)).hubs.size := present
      obtain ⟨middle, ran⟩ := tells.fire_returns conducts noted event payload
      have sameHubs := fire_hubs_eq conducts noted event payload
      rw [after_of_ok ran] at sameHubs
      rw [Code.run, run_bind_ok (note_run world hub _)] at failed
      exact inductionHypothesis none codeTells (sameHubs ▸ noted)
        ((run_operation (attempt_run_ok ran) _ _).symm.trans failed)

/-- Behaviours of which each failure can be told make hosts that can tell. -/
theorem behaviour_canTell {behaviour : Behaviour κ}
    (tells : ∀ who payload, (behaviour who payload).TellsFailures) (hub depth : Nat) :
    CanTell hub (behaviour.host hub depth) := by
  induction depth with
  | zero =>
      intro who payload world present fault final failed
      cases failed
      exact ⟨_, rfl⟩
  | succ depth inductionHypothesis =>
      intro who payload world present fault final failed
      have called : hub < (world.noted hub (.called who.id payload)).hubs.size := present
      exact run_told inductionHypothesis (behaviour_conducts behaviour hub depth)
        (tells who payload) called failed

end World

/-- A listener that registers others, releases its neighbour, clears the bus, registers
once more, fires its own event and fails. -/
def unruly : Behaviour Unit := fun _ _ =>
  .listen "e" () .standard fun _ =>
    .release "listener-2" <|
      .drop <|
        .listen "e" () .standard fun _ =>
          .fire "e" (.text "again") fun _ => .fail (.failed "unruly")

/-- Two listeners of one event, the second of them for one delivery. -/
def twoListeners : Code Unit :=
  .listen "e" () .standard fun _ => .listen "e" () ⟨true, .null, .null⟩ fun _ => .done

/-- The world in which the two listeners are registered. -/
def crowded : World (observed Unit) :=
  World.after (twoListeners.run (unruly.host 0 1) 0) (.start .standard [] [])

theorem World.fire_delivers_iff_unruly :
    Reached 0 crowded ∧
      ∃ (moments : List (Moment Unit)) (final : World (observed Unit)),
        (World.fire (unruly.host 0 1) 0 "e" .null).run crowded = .ok () final ∧
          Delivers (crowded.hub 0).bus "e" .null moments (final.hub 0).bus ∧
          (ownCalls 0 moments).map Prod.fst = ["listener-1", "listener-2"] := by
  have reached : Reached 0 crowded := .ran (.empty (by decide) rfl) unruly 1 twoListeners
  have codeTells : ∀ who payload, (unruly who payload).TellsFailures := by
    intro who payload id other
    exact ⟨"unruly", rfl⟩
  have tells : World.CanTell 0 (unruly.host 0 1) := World.behaviour_canTell codeTells 0 1
  have present : 0 < (crowded.announced 0 "e" .null).hubs.size := by decide +kernel
  obtain ⟨moments, final, ran, _, delivers⟩ :=
    (World.fire_delivers_iff unruly 1 reached "e" .null).1.mpr
      (tells.allTell (World.behaviour_conducts unruly 0 1) "e" .null _ present)
  refine ⟨reached, moments, final, ran, delivers, ?_⟩
  rw [delivers.calls, List.map_map]
  decide +kernel

/-- That a key is missing cannot be told if the key cannot be written out. -/
theorem Fault.not_isTold_missingKey {key : Value} (unwritable : ¬ key.IsWritable) :
    ∃ cause, (Fault.illegal (.missingKey key)).toText = .error cause := by
  cases hindered : key.obstacle? nestingLimit with
  | none =>
      have written : key.toText = .ok key.print := by rw [Value.toText, hindered]
      exact absurd (Value.toText_eq_ok_iff.mp written).1 unwritable
  | some cause =>
      refine ⟨.illegal cause, ?_⟩
      simp only [toText, report?, illegal?, IllegalUse.toText, hindered, Except.mapError]

/-- Listeners that fail over a key that is too long a number. -/
def tongueTied : Behaviour Unit := fun _ _ =>
  .fail (.illegal (.missingKey (.int (10 ^ (digitLimit + 1)))))

/-- The world in which two of them are registered. -/
def hushed : World (observed Unit) :=
  World.after (twoListeners.run (tongueTied.host 0 1) 0) (.start .standard [] [])

/-- The fire fails with the first of the two listeners.  The second one is not called, and it
stays on the bus, although it is for one delivery. -/
theorem World.fire_tongueTied :
    Reached 0 hushed ∧
      ((hushed.hub 0).bus.listenersOf "e").map Listener.id = ["listener-1", "listener-2"] ∧
        onceIds ((hushed.hub 0).bus.listenersOf "e") = ["listener-2"] ∧
          ∃ cause final, (World.fire (tongueTied.host 0 1) 0 "e" .null).run hushed =
              .error cause final ∧
            final.memory = hushed.memory ++ [⟨.called "listener-1" .null, (hushed.hub 0).bus⟩] ∧
              (final.hub 0).bus = (hushed.hub 0).bus := by
  obtain ⟨cause, untold⟩ := Fault.not_isTold_missingKey (Value.not_isWritable_pow (Nat.le_succ digitLimit))
  have ids : ((hushed.hub 0).bus.listenersOf "e").map Listener.id =
      ["listener-1", "listener-2"] := by decide +kernel
  have callbackIds : ((hushed.hub 0).bus.listenersOf "e").map (fun listener =>
      listener.callback.id) = ["listener-1", "listener-2"] := by decide +kernel
  refine ⟨.ran (.empty (by decide) rfl) tongueTied 1 twoListeners, ids, by decide +kernel,
    cause, hushed.noted 0 (.called "listener-1" .null), ?_, rfl, rfl⟩
  cases row : (hushed.hub 0).bus.listenersOf "e" with
  | nil => simp [row] at ids
  | cons listener rest =>
      have isFirst : listener.callback.id = "listener-1" := by
        rw [row] at callbackIds
        exact (List.cons.inj callbackIds).1
      have silent : hushed.announced 0 "e" .null = hushed := by
        rw [announced, show (hushed.hub 0).busConfig.logFire = false from by decide +kernel,
          Bool.not_false, Bool.or_true, if_pos rfl]
      have failed : ((tongueTied.host 0 1).callback listener.callback .null).run hushed =
          .error (.illegal (.missingKey (.int (10 ^ (digitLimit + 1)))))
            (hushed.noted 0 (.called listener.callback.id .null)) := rfl
      have stops := (Turn.untold failed untold : Turn _ "e" _ _ _ _).eq_run
      rw [fire_run, silent, row, deliver_cons, EStateM.run_bind, EStateM.run_bind, ← stops, isFirst]

end CommandHost
