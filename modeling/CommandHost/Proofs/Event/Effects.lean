import CommandHost.World.Events

/-!
# What the operations of the world do to a bus

The operations of the world keep a bus, count listener ids and write a journal.
`World.busView` is the part of a world that matters to the users of one bus.  For
each operation a lemma says which view it leads to; nothing else about the operations
is used later.

All of them succeed but one: a delivery fails when the failure of a listener cannot be
told.  `World.Turn` says what the turn of one listener can come to, and
`World.AllTell` that a delivery comes to its end.
-/

namespace CommandHost

variable {V : Vocabulary}

/-- The part of a world that matters to the users of one bus. -/
structure BusView (V : Vocabulary) where
  hubs : Nat
  bus : Bus V.Callback
  listenerIds : Nat
  memory : V.Memory

namespace World

/-- What the users of the bus of a hub see of a world. -/
def busView (world : World V) (hub : Nat) : BusView V :=
  ⟨world.hubs.size, (world.hub hub).bus, world.listenerIds, world.memory⟩

/-! ## Sequences of steps -/

theorem run_bind_ok {α β : Type} {act : Effect V α} {next : α → Effect V β}
    {world after : World V} {value : α} (ran : act.run world = .ok value after) :
    (act >>= next).run world = (next value).run after := by
  rw [EStateM.run_bind, ran]

/-- The world that a step of the program leaves behind, whether it succeeds or not. -/
def after {α : Type} (act : Effect V α) (world : World V) : World V :=
  match act.run world with
  | .ok _ final => final
  | .error _ final => final

theorem after_bind_ok {α β : Type} {act : Effect V α} {next : α → Effect V β}
    {world middle : World V} {value : α} (ran : act.run world = .ok value middle) :
    after (act >>= next) world = after (next value) middle := by
  rw [after, after, run_bind_ok ran]

theorem after_of_ok {α : Type} {act : Effect V α} {world final : World V} {value : α}
    (ran : act.run world = .ok value final) : after act world = final := by
  rw [after, ran]

theorem after_of_error {α : Type} {act : Effect V α} {world final : World V} {fault : Fault}
    (ran : act.run world = .error fault final) : after act world = final := by
  rw [after, ran]

/-- Whether a step of the program returns, with a value and a world that pass a test. -/
def returnsWith {α : Type} (act : Effect V α) (world : World V) (test : α → World V → Bool) :
    Bool :=
  match act.run world with
  | .ok value final => test value final
  | .error _ _ => false

/-- Whether a step of the program fails, with a fault and a world that pass a test. -/
def failsWith {α : Type} (act : Effect V α) (world : World V) (test : Fault → World V → Bool) :
    Bool :=
  match act.run world with
  | .ok _ _ => false
  | .error fault final => test fault final

theorem exists_ok_of_returnsWith {α : Type} {act : Effect V α} {world : World V}
    {test : α → World V → Bool} (returns : returnsWith act world test = true) :
    ∃ value final, act.run world = .ok value final ∧ test value final = true := by
  unfold returnsWith at returns
  split at returns
  · exact ⟨_, _, ‹_›, returns⟩
  · cases returns

theorem exists_error_of_failsWith {α : Type} {act : Effect V α} {world : World V}
    {test : Fault → World V → Bool} (fails : failsWith act world test = true) :
    ∃ fault final, act.run world = .error fault final ∧ test fault final = true := by
  unfold failsWith at fails
  split at fails
  · cases fails
  · exact ⟨_, _, ‹_›, fails⟩

theorem run_tryCatch {α : Type} {act : Effect V α} {handle : Fault → Effect V α}
    (world : World V) :
    (tryCatch act handle).run world =
      match act.run world with
      | .ok value after => .ok value after
      | .error fault after => (handle fault).run after := by
  change EStateM.tryCatch act handle world = _
  delta EStateM.tryCatch EStateM.run
  cases act world <;> rfl

/-! ## Single operations -/

theorem busView_updateBus (world : World V) {hub : Nat}
    (present : hub < world.hubs.size) (change : Bus V.Callback → Bus V.Callback) :
    ∃ after, (Effect.updateBus hub change).run world = .ok () after ∧
      after.busView hub =
        { world.busView hub with bus := change (world.hub hub).bus } := by
  refine ⟨_, rfl, ?_⟩
  simp [busView, World.hub, Array.getD, present, Array.getElem_modify_self]

theorem listen_busView {world : World V} {hub : Nat}
    (present : hub < world.hubs.size) (event : String) (callback : V.Callback)
    (options : ListenerOptions) :
    ∃ after,
      (listen hub event callback options).run world =
          .ok (listenerId (world.listenerIds + 1)) after ∧
        after.busView hub =
          { world.busView hub with
            bus := (world.hub hub).bus.register
              (.make (listenerId (world.listenerIds + 1)) event callback options .null)
            listenerIds := world.listenerIds + 1 } := by
  let counted : World V := { world with listenerIds := world.listenerIds + 1 }
  have counting : (set counted : Effect V PUnit).run world = .ok .unit counted := rfl
  obtain ⟨registered, updated, registeredView⟩ :=
    busView_updateBus counted present fun bus =>
      bus.register (.make (listenerId (world.listenerIds + 1)) event callback options .null)
  unfold listen
  rw [run_bind_ok (EStateM.run_get world), run_bind_ok counting, run_bind_ok updated]
  by_cases asked : (world.hub hub).busConfig.logRegister = true
  · rw [if_pos asked]
    exact ⟨_, rfl, registeredView⟩
  · rw [if_neg asked]
    exact ⟨registered, rfl, registeredView⟩

/-- Releasing an id does to the bus what `Bus.remove` does, also if the id is
unknown. -/
theorem release_busView {world : World V} {hub : Nat}
    (present : hub < world.hubs.size) (id : String) :
    ∃ after,
      (release hub id).run world = .ok () after ∧
        after.busView hub =
          { world.busView hub with bus := (world.hub hub).bus.remove id } := by
  unfold release
  rw [run_bind_ok (EStateM.run_get world)]
  cases known : (world.hub hub).bus.index.get? id with
  | none =>
      refine ⟨world, by simp [known], ?_⟩
      rw [Bus.remove_eq_self known]
      rfl
  | some event =>
      obtain ⟨removed, updated, removedView⟩ :=
        busView_updateBus world present fun bus => bus.remove id
      simp only [known]
      rw [run_bind_ok updated]
      by_cases asked : (world.hub hub).busConfig.logRemove = true
      · rw [if_pos asked]
        exact ⟨_, rfl, removedView⟩
      · rw [if_neg asked]
        exact ⟨removed, rfl, removedView⟩

theorem releaseAll_busView {world : World V} {hub : Nat}
    (present : hub < world.hubs.size) (ids : List String) :
    ∃ after,
      (releaseAll hub ids).run world = .ok () after ∧
        after.busView hub =
          { world.busView hub with
            bus := ids.foldl Bus.remove (world.hub hub).bus } := by
  induction ids generalizing world with
  | nil => exact ⟨world, rfl, rfl⟩
  | cons id rest inductionHypothesis =>
      obtain ⟨first, released, firstView⟩ := release_busView present id
      have sameHubs : first.hubs.size = world.hubs.size :=
        congrArg BusView.hubs firstView
      have firstBus : (first.hub hub).bus = (world.hub hub).bus.remove id :=
        congrArg BusView.bus firstView
      obtain ⟨after, releasedRest, afterView⟩ :=
        @inductionHypothesis first (sameHubs ▸ present)
      refine ⟨after, ?_, ?_⟩
      · rw [releaseAll, List.forM_eq_forM, List.forM_cons, run_bind_ok released]
        exact releasedRest
      · rw [afterView, firstView, firstBus]
        rfl

theorem releaseOwner_busView {world : World V} {hub : Nat}
    (present : hub < world.hubs.size) (owner : Value) :
    ∃ after,
      (releaseOwner hub owner).run world = .ok () after ∧
        after.busView hub =
          { world.busView hub with
            bus := (world.hub hub).bus.removeOwner owner } := by
  obtain ⟨after, released, afterView⟩ :=
    releaseAll_busView present ((world.hub hub).bus.ownedIds owner)
  refine ⟨after, ?_, afterView⟩
  rw [releaseOwner, run_bind_ok (EStateM.run_get world)]
  exact released

theorem dropListeners_busView {world : World V} {hub : Nat}
    (present : hub < world.hubs.size) :
    ∃ after,
      (dropListeners hub : Effect V Unit).run world = .ok () after ∧
        after.busView hub = { world.busView hub with bus := .empty } :=
  busView_updateBus world present fun _ => .empty

/-! ## The turn of a listener -/

/-- The world in which a record was logged. -/
def logged (world : World V) (record : LogRecord) : World V :=
  { world with journal := world.journal.push (.log record) }

/-- What the turn of a listener in a delivery comes to: it returns, or it fails and the
failure is logged, or the failure cannot be told, and then the delivery fails. -/
inductive Turn (host : Host V) (event : String) (payload : Value)
    (listener : Listener V.Callback) (world : World V) :
    EStateM.Result Fault (World V) Unit → Prop where
  | returned {later : World V}
      (ran : (host.callback listener.callback payload).run world = .ok () later) :
      Turn host event payload listener world (.ok () later)
  | told {later : World V} {fault : Fault} {text : String}
      (failed : (host.callback listener.callback payload).run world = .error fault later)
      (written : fault.toText = .ok text) :
      Turn host event payload listener world
        (.ok () (later.logged (failureRecord event listener fault text)))
  | untold {later : World V} {fault cause : Fault}
      (failed : (host.callback listener.callback payload).run world = .error fault later)
      (unwritten : fault.toText = .error cause) :
      Turn host event payload listener world (.error cause later)

/-- Whatever the listeners of a row do at their turns, none of them fails without a text. -/
inductive AllTell (host : Host V) (event : String) (payload : Value) :
    List (Listener V.Callback) → World V → Prop where
  | nil (world : World V) : AllTell host event payload [] world
  | cons {listener : Listener V.Callback} {rest : List (Listener V.Callback)}
      {world later : World V} (turn : Turn host event payload listener world (.ok () later))
      (others : AllTell host event payload rest later) :
      AllTell host event payload (listener :: rest) world

/-- Gives a payload to a listener; a failure is logged. -/
def turn (host : Host V) (event : String) (payload : Value)
    (listener : Listener V.Callback) : Effect V Unit :=
  tryCatch (host.callback listener.callback payload) (logFailure event listener)

variable {host : Host V} {event : String} {payload : Value} {listener : Listener V.Callback}
variable {rest : List (Listener V.Callback)} {world later : World V}

theorem deliver_cons (host : Host V) (event : String) (payload : Value)
    (listener : Listener V.Callback) (rest : List (Listener V.Callback)) :
    deliver host event payload (listener :: rest) =
      turn host event payload listener >>= fun _ => deliver host event payload rest := rfl

theorem turn_run (host : Host V) (event : String) (payload : Value)
    (listener : Listener V.Callback) (world : World V) :
    Turn host event payload listener world ((turn host event payload listener).run world) := by
  rw [turn, run_tryCatch]
  cases outcome : (host.callback listener.callback payload).run world with
  | ok _ later => exact .returned outcome
  | error fault later =>
      cases written : fault.toText with
      | ok text =>
          have logs : (logFailure event listener fault).run later =
              .ok () (later.logged (failureRecord event listener fault text)) := by
            rw [logFailure, written]
            rfl
          simp only [logs]
          exact .told outcome written
      | error cause =>
          have fails : (logFailure event listener fault).run later = .error cause later := by
            rw [logFailure, written]
            rfl
          simp only [fails]
          exact .untold outcome written

theorem Turn.eq_run {outcome : EStateM.Result Fault (World V) Unit}
    (comes : Turn host event payload listener world outcome) :
    outcome = (turn host event payload listener).run world := by
  rw [turn, run_tryCatch]
  cases comes with
  | returned ran => rw [ran]
  | told failed written =>
      simp only [failed, logFailure, written]
      rfl
  | untold failed unwritten =>
      simp only [failed, logFailure, unwritten]
      rfl

/-- What a listener does changes nothing else about the delivery, not even by failing. -/
theorem turn_busView (host : Host V) (event : String) (payload : Value)
    (listener : Listener V.Callback) (world : World V) (hub : Nat) :
    (after (turn host event payload listener) world).busView hub =
      (after (host.callback listener.callback payload) world).busView hub := by
  have comes := turn_run host event payload listener world
  rw [after, after]
  generalize (turn host event payload listener).run world = outcome at comes
  cases comes with
  | returned ran => rw [ran]
  | told failed written =>
      rw [failed]
      rfl
  | untold failed unwritten => rw [failed]

/-! ## Firing -/

/-- A delivery comes to its end exactly if no listener fails without a text. -/
theorem deliver_returns_iff {listeners : List (Listener V.Callback)} :
    (∃ final, (deliver host event payload listeners).run world = .ok () final) ↔
      AllTell host event payload listeners world := by
  induction listeners generalizing world with
  | nil => exact ⟨fun _ => .nil world, fun _ => ⟨world, rfl⟩⟩
  | cons listener rest inductionHypothesis =>
      have comes := turn_run host event payload listener world
      rw [deliver_cons, EStateM.run_bind]
      generalize (turn host event payload listener).run world = outcome at comes
      cases outcome with
      | ok _ later =>
          refine inductionHypothesis.trans ⟨.cons comes, fun tell => ?_⟩
          cases tell with
          | cons turn others =>
              cases turn.eq_run.trans comes.eq_run.symm
              exact others
      | error cause later =>
          refine ⟨nofun, fun tell => ?_⟩
          cases tell with
          | cons turn others => cases turn.eq_run.trans comes.eq_run.symm

/-- The world in which a fire is announced, if there is anybody to hear of it and fires are
to be logged. -/
def announced (world : World V) (hub : Nat) (event : String) (payload : Value) : World V :=
  if ((world.hub hub).bus.listenersOf event).isEmpty || !(world.hub hub).busConfig.logFire then
    world
  else
    world.logged ⟨.debug, "event fired",
      .ofTexts [("event_name", .text event), ("payload", payload)]⟩

theorem busView_announced (world : World V) (hub : Nat) (event : String) (payload : Value) :
    (world.announced hub event payload).busView hub = world.busView hub := by
  rw [announced]
  split <;> rfl

/-- A fire delivers to the listeners that the event has at its start, and then releases
those that are for one delivery. -/
theorem fire_run (host : Host V) (world : World V) (hub : Nat) (event : String)
    (payload : Value) :
    (fire host hub event payload).run world =
      (do
        deliver host event payload ((world.hub hub).bus.listenersOf event)
        releaseAll hub
          ((((world.hub hub).bus.listenersOf event).filter
            Listener.once).map Listener.id)).run (world.announced hub event payload) := by
  rw [fire, run_bind_ok (EStateM.run_get world), announced]
  by_cases nobody : (world.hub hub).bus.listenersOf event = []
  · simp only [nobody, List.isEmpty_nil, if_true, Bool.true_or]
    rfl
  · by_cases asked : (world.hub hub).busConfig.logFire = true
    · simp only [List.isEmpty_iff, nobody, asked, if_false, if_true, Bool.not_true, Bool.or_false]
      rfl
    · simp only [List.isEmpty_iff, nobody, asked, if_false, Bool.not_false, Bool.or_true]
      rfl

/-- Releasing listeners never fails. -/
theorem exists_releaseAll_run (hub : Nat) (ids : List String) (world : World V) :
    ∃ final, (releaseAll hub ids).run world = .ok () final := by
  induction ids generalizing world with
  | nil => exact ⟨world, rfl⟩
  | cons id rest inductionHypothesis =>
      have released : ∃ middle, (release hub id).run world = .ok () middle := by
        unfold release
        rw [run_bind_ok (EStateM.run_get world)]
        cases known : (world.hub hub).bus.index.get? id with
        | none => exact ⟨world, by simp [known]⟩
        | some event =>
            by_cases asked : (world.hub hub).busConfig.logRemove = true
            · exact ⟨_, by simp only [known, asked, if_true]; rfl⟩
            · exact ⟨_, by simp only [known, asked, Bool.false_eq_true, if_false]; rfl⟩
      obtain ⟨middle, released⟩ := released
      obtain ⟨final, releasedRest⟩ := inductionHypothesis middle
      refine ⟨final, ?_⟩
      rw [releaseAll, List.forM_eq_forM, List.forM_cons, run_bind_ok released]
      exact releasedRest

/-- A fire returns exactly if no listener that its event has at the start fails without a
text. -/
theorem fire_returns_iff {hub : Nat} :
    (∃ final, (fire host hub event payload).run world = .ok () final) ↔
      AllTell host event payload ((world.hub hub).bus.listenersOf event)
        (world.announced hub event payload) := by
  rw [← deliver_returns_iff, fire_run, EStateM.run_bind]
  cases outcome : (deliver host event payload ((world.hub hub).bus.listenersOf event)).run
      (world.announced hub event payload) with
  | ok _ delivered => exact iff_of_true (exists_releaseAll_run hub _ delivered) ⟨delivered, rfl⟩
  | error cause delivered => exact iff_of_false nofun nofun

end World

end CommandHost
