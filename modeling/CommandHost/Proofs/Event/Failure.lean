import CommandHost.Proofs.Event.Delivery

/-!
# Failing listeners

Two assignments of code to listeners can differ in how the code ends: where a listener of
the one returns, the same listener of the other fails.  The main statement says that a fire
does not tell them apart, as long as the failures can be told: under both it returns, with
the same history and the same bus.  A failure that cannot be told makes a difference.

Each operation of the world leads to a view of the bus that is determined by the view
before it, and a failure that was caught leaves no trace in that view.  So two worlds that
look alike keep looking alike while the two assignments run side by side.
-/

namespace CommandHost

variable {κ : Type}

/-! ## Code that differs in its end -/

namespace Code

/-- Code that is at its end: it returns or fails. -/
def IsOver : Code κ → Prop
  | .done | .fail _ => True
  | _ => False

/-- Code that performs the same operations, whatever it learns in between, and then ends in
the same way or in another one. -/
inductive SameDeeds : Code κ → Code κ → Prop where
  | ended {code other : Code κ} (isOver : code.IsOver) (otherIsOver : other.IsOver) :
      SameDeeds code other
  | look {next others : List (Moment κ) → Bus (Observed κ) → Code κ}
      (same : ∀ history bus, SameDeeds (next history bus) (others history bus)) :
      SameDeeds (.look next) (.look others)
  | listen (event : String) (name : κ) (options : ListenerOptions)
      {next others : String → Code κ} (same : ∀ id, SameDeeds (next id) (others id)) :
      SameDeeds (.listen event name options next) (.listen event name options others)
  | release (id : String) {next others : Code κ} (same : SameDeeds next others) :
      SameDeeds (.release id next) (.release id others)
  | releaseOwner (owner : Value) {next others : Code κ} (same : SameDeeds next others) :
      SameDeeds (.releaseOwner owner next) (.releaseOwner owner others)
  | drop {next others : Code κ} (same : SameDeeds next others) :
      SameDeeds (.drop next) (.drop others)
  | fire (event : String) (payload : Value) {next others : Option Fault → Code κ}
      (same : ∀ failure, SameDeeds (next failure) (others failure)) :
      SameDeeds (.fire event payload next) (.fire event payload others)

/-- Code at its end leaves the world as it is. -/
theorem IsOver.after_eq {code : Code κ} (isOver : code.IsOver) (host : Host (observed κ))
    (hub : Nat) (world : World (observed κ)) :
    World.after (code.run host hub) world = world := by
  cases code with
  | done => rfl
  | fail fault => rfl
  | _ => exact isOver.elim

end Code

namespace World

/-! ## Worlds that look alike -/

/-- Two worlds that look alike to the users of the bus of a hub. -/
structure SeenAlike (hub : Nat) (world other : World (observed κ)) : Prop where
  present : hub < world.hubs.size
  view_eq : other.busView hub = world.busView hub

namespace SeenAlike

variable {hub : Nat} {world other middle otherMiddle : World (observed κ)}

theorem otherPresent (alike : SeenAlike hub world other) : hub < other.hubs.size := by
  have sameHubs : other.hubs.size = world.hubs.size := congrArg BusView.hubs alike.view_eq
  exact sameHubs ▸ alike.present

theorem bus_eq (alike : SeenAlike hub world other) :
    (other.hub hub).bus = (world.hub hub).bus :=
  congrArg BusView.bus alike.view_eq

theorem listenerIds_eq (alike : SeenAlike hub world other) :
    other.listenerIds = world.listenerIds :=
  congrArg BusView.listenerIds alike.view_eq

theorem memory_eq (alike : SeenAlike hub world other) : other.memory = world.memory :=
  congrArg BusView.memory alike.view_eq

/-- A step in each of the worlds that changes the view of the bus in the same way. -/
theorem of_change (alike : SeenAlike hub world other)
    (change : BusView (observed κ) → BusView (observed κ))
    (keepsHubs : ∀ view, (change view).hubs = view.hubs)
    (view : middle.busView hub = change (world.busView hub))
    (otherView : otherMiddle.busView hub = change (other.busView hub)) :
    SeenAlike hub middle otherMiddle where
  present := by
    have sameHubs : middle.hubs.size = world.hubs.size :=
      (congrArg BusView.hubs view).trans (keepsHubs _)
    exact sameHubs ▸ alike.present
  view_eq := by rw [otherView, view, alike.view_eq]

/-- A step in each of the worlds that the users of the bus do not see. -/
theorem of_same_views (alike : SeenAlike hub world other)
    (view : middle.busView hub = world.busView hub)
    (otherView : otherMiddle.busView hub = other.busView hub) :
    SeenAlike hub middle otherMiddle :=
  alike.of_change id (fun _ => rfl) view otherView

theorem noted (alike : SeenAlike hub world other) (deed : Deed κ) :
    SeenAlike hub (world.noted hub deed) (other.noted hub deed) :=
  alike.of_change (fun view => { view with memory := view.memory ++ [⟨deed, view.bus⟩] })
    (fun _ => rfl) rfl rfl

end SeenAlike

/-! ## Steps side by side -/

/-- Two steps that succeed with the same value in worlds that look alike, and lead to such
worlds. -/
def Concur {α : Type} (hub : Nat) (act otherAct : Effect (observed κ) α) : Prop :=
  ∀ world other, SeenAlike hub world other →
    ∃ value middle otherMiddle,
      act.run world = .ok value middle ∧ otherAct.run other = .ok value otherMiddle ∧
        SeenAlike hub middle otherMiddle

/-- Two steps, whether they succeed or fail, that lead from worlds that look alike to such
worlds. -/
def KeepAlike (hub : Nat) (act otherAct : Effect (observed κ) Unit) : Prop :=
  ∀ world other, SeenAlike hub world other →
    SeenAlike hub (after act world) (after otherAct other)

variable {hub : Nat}

theorem concur_listen (event : String) (callback : Observed κ) (options : ListenerOptions) :
    Concur hub (listen hub event callback options) (listen hub event callback options) := by
  intro world other alike
  obtain ⟨middle, ran, view⟩ := listen_busView alike.present event callback options
  obtain ⟨otherMiddle, otherRan, otherView⟩ :=
    listen_busView alike.otherPresent event callback options
  rw [alike.listenerIds_eq] at otherRan
  refine ⟨_, middle, otherMiddle, ran, otherRan, ?_⟩
  exact alike.of_change
    (fun view =>
      { view with
        bus := view.bus.register
          (.make (listenerId (view.listenerIds + 1)) event callback options .null)
        listenerIds := view.listenerIds + 1 })
    (fun _ => rfl) view otherView

/-- An operation that succeeds and does to the bus what depends on the bus alone. -/
theorem concur_of_change {operation : Effect (observed κ) Unit}
    (change : Bus (Observed κ) → Bus (Observed κ))
    (changes : ∀ world : World (observed κ), hub < world.hubs.size →
      ∃ after, operation.run world = .ok () after ∧
        after.busView hub =
          { world.busView hub with bus := change (world.hub hub).bus }) :
    Concur hub operation operation := by
  intro world other alike
  obtain ⟨middle, ran, view⟩ := changes world alike.present
  obtain ⟨otherMiddle, otherRan, otherView⟩ := changes other alike.otherPresent
  exact ⟨(), middle, otherMiddle, ran, otherRan,
    alike.of_change (fun view => { view with bus := change view.bus }) (fun _ => rfl) view
      otherView⟩

theorem concur_release (id : String) :
    Concur hub (release hub id : Effect (observed κ) Unit) (release hub id) :=
  concur_of_change (Bus.remove · id) fun _ present => release_busView present id

theorem concur_releaseAll (ids : List String) :
    Concur hub (releaseAll hub ids : Effect (observed κ) Unit) (releaseAll hub ids) :=
  concur_of_change (ids.foldl Bus.remove) fun _ present => releaseAll_busView present ids

theorem concur_releaseOwner (owner : Value) :
    Concur hub (releaseOwner hub owner : Effect (observed κ) Unit) (releaseOwner hub owner) :=
  concur_of_change (Bus.removeOwner · owner) fun _ present =>
    releaseOwner_busView present owner

theorem concur_dropListeners :
    Concur hub (dropListeners hub : Effect (observed κ) Unit) (dropListeners hub) :=
  concur_of_change (fun _ => .empty) fun _ present => dropListeners_busView present

/-- An operation that is noted down, and what follows it. -/
theorem Concur.noted {α : Type} {act otherAct : Effect (observed κ) α}
    (concur : Concur hub act otherAct) (deed : α → Deed κ)
    {next others : α → Effect (observed κ) Unit}
    (keep : ∀ value, KeepAlike hub (next value) (others value)) :
    KeepAlike hub
      (do
        let value ← act
        note hub (deed value)
        next value)
      (do
        let value ← otherAct
        note hub (deed value)
        others value) := by
  intro world other alike
  obtain ⟨value, middle, otherMiddle, ran, otherRan, alikeThen⟩ := concur world other alike
  rw [after_bind_ok ran, after_bind_ok otherRan, after_bind_ok (note_run middle hub _),
    after_bind_ok (note_run otherMiddle hub _)]
  exact keep value _ _ (alikeThen.noted (deed value))

/-! ## Delivering and firing -/

/-- Two hosts whose listeners keep worlds alike. -/
def HostsAlike (hub : Nat) (host otherHost : Host (observed κ)) : Prop :=
  ∀ who payload, KeepAlike hub (host.callback who payload) (otherHost.callback who payload)

variable {host otherHost : Host (observed κ)}

/-- What one listener does keeps the worlds alike even if it fails in only one of them. -/
theorem concur_deliver (alikeHosts : HostsAlike hub host otherHost) (tells : CanTell hub host)
    (otherTells : CanTell hub otherHost) (event : String) (payload : Value)
    (listeners : Ledger (Observed κ)) :
    Concur hub (deliver host event payload listeners)
      (deliver otherHost event payload listeners) := by
  induction listeners with
  | nil => exact fun world other alike => ⟨(), world, other, rfl, rfl, alike⟩
  | cons listener rest inductionHypothesis =>
      intro world other alike
      have called := alikeHosts listener.callback payload world other alike
      have view := turn_busView host event payload listener world hub
      have otherView := turn_busView otherHost event payload listener other hub
      obtain ⟨middle, ran⟩ := tells.turn_run event payload listener alike.present
      obtain ⟨otherMiddle, otherRan⟩ :=
        otherTells.turn_run event payload listener alike.otherPresent
      rw [after_of_ok ran] at view
      rw [after_of_ok otherRan] at otherView
      rw [deliver_cons, deliver_cons, run_bind_ok ran, run_bind_ok otherRan]
      exact inductionHypothesis middle otherMiddle (called.of_same_views view otherView)

/-- A fire reaches the same listeners under both hosts, and returns. -/
theorem concur_fire (alikeHosts : HostsAlike hub host otherHost) (tells : CanTell hub host)
    (otherTells : CanTell hub otherHost) (event : String) (payload : Value) :
    Concur hub (fire host hub event payload) (fire otherHost hub event payload) := by
  intro world other alike
  obtain ⟨⟨⟩, delivered, otherDelivered, ran, otherRan, alikeThen⟩ :=
    concur_deliver alikeHosts tells otherTells event payload
      ((world.hub hub).bus.listenersOf event) _ _
      (alike.of_same_views (world.busView_announced hub event payload)
        (other.busView_announced hub event payload))
  rw [fire_run, fire_run, alike.bus_eq, run_bind_ok ran, run_bind_ok otherRan]
  exact concur_releaseAll _ _ _ alikeThen

theorem Concur.attempt {act otherAct : Effect (observed κ) Unit}
    (concur : Concur hub act otherAct) : Concur hub (attempt act) (attempt otherAct) := by
  intro world other alike
  obtain ⟨⟨⟩, middle, otherMiddle, ran, otherRan, alikeThen⟩ := concur world other alike
  exact ⟨none, middle, otherMiddle, attempt_run_ok ran, attempt_run_ok otherRan, alikeThen⟩

/-! ## Code and behaviours -/

/-- Code that performs the same operations keeps worlds alike. -/
theorem keepAlike_run (alikeHosts : HostsAlike hub host otherHost) (tells : CanTell hub host)
    (otherTells : CanTell hub otherHost) {code other : Code κ} (same : code.SameDeeds other) :
    KeepAlike hub (code.run host hub) (other.run otherHost hub) := by
  induction same with
  | ended isOver otherIsOver =>
      intro world other alike
      rwa [isOver.after_eq, otherIsOver.after_eq]
  | look same inductionHypothesis =>
      intro world other alike
      rw [Code.run, Code.run, after_bind_ok (EStateM.run_get world),
        after_bind_ok (EStateM.run_get other), alike.memory_eq, alike.bus_eq]
      exact inductionHypothesis _ _ world other alike
  | listen event name options same inductionHypothesis =>
      intro world other alike
      rw [Code.run, Code.run, after_bind_ok (EStateM.run_get world),
        after_bind_ok (EStateM.run_get other), alike.listenerIds_eq]
      exact (concur_listen event _ options).noted _ inductionHypothesis world other alike
  | release id same inductionHypothesis =>
      exact (concur_release id).noted (fun _ => .removed id) fun _ => inductionHypothesis
  | releaseOwner owner same inductionHypothesis =>
      exact (concur_releaseOwner owner).noted (fun _ => .removedOwner owner)
        fun _ => inductionHypothesis
  | drop same inductionHypothesis =>
      exact concur_dropListeners.noted (fun _ => .cleared) fun _ => inductionHypothesis
  | fire event payload same inductionHypothesis =>
      intro world other alike
      have begun := alike.noted (.began event payload)
      rw [Code.run, Code.run, after_bind_ok (note_run world hub _),
        after_bind_ok (note_run other hub _)]
      exact (concur_fire alikeHosts tells otherTells event payload).attempt.noted
        .ending inductionHypothesis _ _ begun

theorem hostsAlike_observing {act otherAct : Observed κ → Value → Effect (observed κ) Unit}
    (keep : ∀ who payload, KeepAlike hub (act who payload) (otherAct who payload)) :
    HostsAlike hub (observing hub act) (observing hub otherAct) := by
  intro who payload world other alike
  have called := alike.noted (.called who.id payload)
  have acted (act : Observed κ → Value → Effect (observed κ) Unit)
      (world : World (observed κ)) :
      after ((observing hub act).callback who payload) world =
        after (act who payload) (world.noted hub (.called who.id payload)) :=
    after_bind_ok (note_run world hub _)
  rw [acted, acted]
  exact keep who payload _ _ called

/-- Listeners that differ in their ends, and that can tell why they fail, keep worlds alike at
every depth of nesting. -/
theorem hostsAlike_host {behaviour other : Behaviour κ}
    (same : ∀ who payload, (behaviour who payload).SameDeeds (other who payload))
    (tells : ∀ who payload, (behaviour who payload).TellsFailures)
    (otherTells : ∀ who payload, (other who payload).TellsFailures) (hub depth : Nat) :
    HostsAlike hub (behaviour.host hub depth) (other.host hub depth) := by
  induction depth with
  | zero => exact hostsAlike_observing fun _ _ _ _ alike => alike
  | succ depth inductionHypothesis =>
      exact hostsAlike_observing fun who payload =>
        keepAlike_run inductionHypothesis (behaviour_canTell tells hub depth)
          (behaviour_canTell otherTells hub depth) (same who payload)

/-- Whether listeners return or fail after what they do, for causes that can be told, is
nothing that a fire depends on: it returns in both cases, it makes the same calls at every
level of nesting, and every moment of the two histories has the same bus, up to the bus that
is left. -/
theorem fire_insensitive (behaviour other : Behaviour κ)
    (same : ∀ who payload, (behaviour who payload).SameDeeds (other who payload))
    (tells : ∀ who payload, (behaviour who payload).TellsFailures)
    (otherTells : ∀ who payload, (other who payload).TellsFailures)
    (depth : Nat) {hub : Nat} {world : World (observed κ)} (present : hub < world.hubs.size)
    (event : String) (payload : Value) :
    ∃ final otherFinal,
      (fire (behaviour.host hub depth) hub event payload).run world = .ok () final ∧
        (fire (other.host hub depth) hub event payload).run world = .ok () otherFinal ∧
        otherFinal.memory = final.memory ∧
        (otherFinal.hub hub).bus = (final.hub hub).bus := by
  obtain ⟨⟨⟩, final, otherFinal, ran, otherRan, alike⟩ :=
    concur_fire (hostsAlike_host same tells otherTells hub depth)
      (behaviour_canTell tells hub depth) (behaviour_canTell otherTells hub depth) event payload
      world world ⟨present, rfl⟩
  exact ⟨final, otherFinal, ran, otherRan, alike.memory_eq, alike.bus_eq⟩

end World

/-- Code that is over, with a failure if that is asked for. -/
def ending (fails : Bool) : Code Unit := if fails then .fail (.failed "refused") else .done

/-- Listeners that on a payload that counts as true register one more of them, fire a second
event and release what they registered; all of them may fail in the end. -/
def busy (fails : Bool) : Behaviour Unit := fun _ payload =>
  if payload.truthy then
    .listen "e" () .standard fun id =>
      .fire "f" .null (Code.unless (.release id (ending fails)))
  else ending fails

/-- A world with two busy listeners of one event, the first of them for one delivery, and one
of the other event. -/
def attended : World (observed Unit) :=
  let register : Code Unit :=
    .listen "e" () ⟨true, .null, .null⟩ fun _ =>
      .listen "e" () .standard fun _ => .listen "f" () .standard fun _ => .done
  World.after (register.run ((busy true).host 0 1) 0) (.start .standard [] [])

theorem busy_sameDeeds (who : Observed Unit) (payload : Value) :
    (busy true who payload).SameDeeds (busy false who payload) := by
  have isOver (fails : Bool) : (ending fails).IsOver := by cases fails <;> exact trivial
  have ends : (ending true).SameDeeds (ending false) := .ended (isOver true) (isOver false)
  unfold busy
  split
  · refine .listen _ _ _ fun _ => .fire _ _ fun failure => ?_
    cases failure with
    | none => exact .release _ ends
    | some fault => exact .ended trivial trivial
  · exact ends

theorem busy_tells (fails : Bool) (who : Observed Unit) (payload : Value) :
    (busy fails who payload).TellsFailures := by
  have ends : (ending fails).TellsFailures := by
    cases fails with
    | false => exact trivial
    | true => exact ⟨"refused", rfl⟩
  unfold busy
  split
  · exact fun _ => ends
  · exact ends

/-- All four calls fail and are logged, or none of them; nothing else is different. -/
theorem World.fire_insensitive_busy :
    (∀ who payload, (busy true who payload).SameDeeds (busy false who payload)) ∧
      (∀ fails who payload, (busy fails who payload).TellsFailures) ∧
      0 < attended.hubs.size ∧
      ∃ final otherFinal : World (observed Unit),
        (World.fire ((busy true).host 0 2) 0 "e" (.text "x")).run attended = .ok () final ∧
          (World.fire ((busy false).host 0 2) 0 "e" (.text "x")).run attended =
            .ok () otherFinal ∧
          otherFinal.memory = final.memory ∧
          (otherFinal.hub 0).bus = (final.hub 0).bus ∧
          final.journal.size = attended.journal.size + 4 ∧
          otherFinal.journal.size = attended.journal.size := by
  have present : 0 < attended.hubs.size := by decide +kernel
  obtain ⟨final, otherFinal, ran, otherRan, sameMemory, sameBus⟩ :=
    World.fire_insensitive (busy true) (busy false) busy_sameDeeds (busy_tells true)
      (busy_tells false) 2 present "e" (.text "x")
  have logged (fails : Bool) :
      (World.after (World.fire ((busy fails).host 0 2) 0 "e" (.text "x")) attended).journal.size =
        attended.journal.size + if fails then 4 else 0 := by
    cases fails <;> decide +kernel
  have finalLog := logged true
  have otherLog := logged false
  rw [World.after, ran] at finalLog
  rw [World.after, otherRan] at otherLog
  exact ⟨busy_sameDeeds, busy_tells, present, final, otherFinal, ran, otherRan, sameMemory,
    sameBus, finalLog, otherLog⟩

/-- A failure without a text. -/
def mute (fails : Bool) : Behaviour Unit := fun _ _ =>
  if fails then .fail (.untold "Mute" (.failed "no text")) else .done

/-- Where the listeners return, the fire returns and releases the listener for one delivery;
where the same listeners fail without a text, it fails at the first of them. -/
theorem World.fire_sensitive_mute :
    (∀ who payload, (mute true who payload).SameDeeds (mute false who payload)) ∧
      ∃ final otherFinal : World (observed Unit),
        (World.fire ((mute false).host 0 1) 0 "e" .null).run attended = .ok () final ∧
          (World.fire ((mute true).host 0 1) 0 "e" .null).run attended =
            .error (.failed "no text") otherFinal ∧
          (ownCalls 0 (final.memory.drop attended.memory.length)).map Prod.fst =
            ["listener-1", "listener-2"] ∧
          (ownCalls 0 (otherFinal.memory.drop attended.memory.length)).map Prod.fst =
            ["listener-1"] ∧
          (final.hub 0).bus.countOf "e" = 1 ∧ (otherFinal.hub 0).bus.countOf "e" = 2 := by
  refine ⟨fun who payload => .ended trivial trivial, _, _, rfl, rfl, ?_⟩
  decide +kernel

end CommandHost
