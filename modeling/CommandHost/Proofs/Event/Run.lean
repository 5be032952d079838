import CommandHost.Proofs.Event.Effects
import CommandHost.Proofs.Event.Stage

/-!
# Runs of code on a bus

Whatever code runs, and whatever the listeners do that it sets off, the moments that
are noted are steps from the stage at which the run begins to the one at which it
ends, or to the one at which a listener failed without a text.  The proof follows the
code, the list of listeners that a fire delivers to, and the depth to which deliveries
are nested.
-/

namespace CommandHost

variable {κ : Type}

/-! ## The calls of one pass -/

/-- How deep fires are nested after a deed. -/
def Deed.nesting (depth : Nat) : Deed κ → Nat
  | .began _ _ => depth + 1
  | .ended | .abandoned => depth - 1
  | _ => depth

/-- The call that a deed is, if no fire is nested. -/
def Deed.ownCall (depth : Nat) : Deed κ → List (String × Value)
  | .called id payload => if depth = 0 then [(id, payload)] else []
  | _ => []

/-- How deep fires are nested after some moments. -/
def nesting (depth : Nat) (moments : List (Moment κ)) : Nat :=
  moments.foldl (fun depth moment => moment.deed.nesting depth) depth

/-- The calls among some moments that are not made by nested fires. -/
def ownCalls : Nat → List (Moment κ) → List (String × Value)
  | _, [] => []
  | depth, moment :: later =>
    moment.deed.ownCall depth ++ ownCalls (moment.deed.nesting depth) later

/-- The bus after some moments. -/
def lastBus : Bus (Observed κ) → List (Moment κ) → Bus (Observed κ)
  | bus, [] => bus
  | _, moment :: later => lastBus moment.bus later

theorem ownCalls_append (depth : Nat) (earlier later : List (Moment κ)) :
    ownCalls depth (earlier ++ later) =
      ownCalls depth earlier ++ ownCalls (nesting depth earlier) later := by
  induction earlier generalizing depth with
  | nil => rfl
  | cons moment rest inductionHypothesis =>
      rw [List.cons_append, ownCalls, inductionHypothesis, ownCalls, List.append_assoc]
      rfl

theorem ownCalls_called (id : String) (payload : Value) (bus : Bus (Observed κ))
    (later : List (Moment κ)) :
    ownCalls 0 (⟨.called id payload, bus⟩ :: later) = (id, payload) :: ownCalls 0 later :=
  rfl

namespace Stage

variable {stage final : Stage κ} {moments : List (Moment κ)}

theorem Step.nesting_eq {deed : Deed κ} (step : Step stage deed final) :
    deed.nesting stage.passes.length = final.passes.length := by
  cases step <;> simp [Deed.nesting]

/-- Without a pass in progress nobody is called. -/
theorem Step.ownCall_eq_nil {deed : Deed κ} (step : Step stage deed final) :
    deed.ownCall stage.passes.length = [] := by
  cases step <;> simp [Deed.ownCall]

theorem Steps.nesting_eq (steps : Steps stage moments final) :
    nesting stage.passes.length moments = final.passes.length := by
  induction steps with
  | nil stage => rfl
  | cons step _ inductionHypothesis =>
      rw [← inductionHypothesis, ← step.nesting_eq]
      rfl

theorem Steps.ownCalls_eq_nil (steps : Steps stage moments final) :
    ownCalls stage.passes.length moments = [] := by
  induction steps with
  | nil stage => rfl
  | cons step _ inductionHypothesis =>
      rw [ownCalls, step.ownCall_eq_nil, step.nesting_eq, inductionHypothesis]
      rfl

theorem Steps.lastBus_eq (steps : Steps stage moments final) :
    lastBus stage.bus moments = final.bus := by
  induction steps with
  | nil stage => rfl
  | cons step _ inductionHypothesis => exact inductionHypothesis

end Stage

namespace World

/-! ## Worlds and stages -/

/-- The stage of a bus in a world. -/
def stage (world : World (observed κ)) (hub : Nat) (passes : List (Pass κ)) : Stage κ :=
  ⟨(world.hub hub).bus, world.listenerIds, passes⟩

/-- The world in which a deed is noted down. -/
def noted (world : World (observed κ)) (hub : Nat) (deed : Deed κ) : World (observed κ) :=
  { world with memory := world.memory ++ [⟨deed, (world.hub hub).bus⟩] }

theorem note_run (world : World (observed κ)) (hub : Nat) (deed : Deed κ) :
    (note hub deed).run world = .ok () (world.noted hub deed) := rfl

/-- From one world to another the noted moments are steps. -/
structure Leads (hub : Nat) (world : World (observed κ)) (passes : List (Pass κ))
    (moments : List (Moment κ)) (final : World (observed κ))
    (finalPasses : List (Pass κ)) : Prop where
  hubs_eq : final.hubs.size = world.hubs.size
  memory_eq : final.memory = world.memory ++ moments
  steps : Stage.Steps (world.stage hub passes) moments (final.stage hub finalPasses)

namespace Leads

variable {hub : Nat} {world middle final : World (observed κ)}
variable {passes middlePasses finalPasses : List (Pass κ)}

theorem of_busView_eq (same : final.busView hub = world.busView hub)
    (passes : List (Pass κ)) : Leads hub world passes [] final passes where
  hubs_eq := congrArg BusView.hubs same
  memory_eq := by
    rw [List.append_nil]
    exact congrArg BusView.memory same
  steps := by
    have sameStage : final.stage hub passes = world.stage hub passes := by
      rw [stage, stage]
      congr 1
      · exact congrArg BusView.bus same
      · exact congrArg BusView.listenerIds same
    rw [sameStage]
    exact .nil _

theorem append {earlier later : List (Moment κ)}
    (first : Leads hub world passes earlier middle middlePasses)
    (second : Leads hub middle middlePasses later final finalPasses) :
    Leads hub world passes (earlier ++ later) final finalPasses where
  hubs_eq := second.hubs_eq.trans first.hubs_eq
  memory_eq := by rw [second.memory_eq, first.memory_eq, List.append_assoc]
  steps := first.steps.append second.steps

/-- A step that the operations of the world made and that is then noted down. -/
theorem noted {deed : Deed κ} (hubs_eq : middle.hubs.size = world.hubs.size)
    (memory_eq : middle.memory = world.memory)
    (step : Stage.Step (world.stage hub passes) deed (middle.stage hub finalPasses)) :
    Leads hub world passes [⟨deed, (middle.hub hub).bus⟩] (middle.noted hub deed)
      finalPasses where
  hubs_eq := hubs_eq
  memory_eq := by
    rw [World.noted, memory_eq]
  steps := step.steps

end Leads

/-- A step of the program notes down all that it does to a bus, and ends in as many
passes as there were. -/
def Narrates (hub : Nat) (act : Effect (observed κ) Unit) : Prop :=
  ∀ world : World (observed κ), hub < world.hubs.size →
    ∃ moments, ∀ passes, Leads hub world passes moments (after act world) passes

/-! ## Delivering and firing -/

/-- The listeners of a host note down that they are called and what they do then. -/
def Conducts (hub : Nat) (host : Host (observed κ)) : Prop :=
  ∀ (who : Observed κ) (payload : Value) (world : World (observed κ)),
    hub < world.hubs.size →
      ∃ moments, ∀ passes,
        Leads hub (world.noted hub (.called who.id payload)) passes moments
          (after (host.callback who payload) world) passes

variable {hub : Nat} {host : Host (observed κ)}

/-- How a delivery ends that has called some listeners and missed others: nobody is missed, or
the one that was called last failed without a text. -/
inductive DeliveryEnds (host : Host (observed κ)) (event : String) (payload : Value) :
    Ledger (Observed κ) → Ledger (Observed κ) →
      EStateM.Result Fault (World (observed κ)) Unit → Prop where
  | completed (called : Ledger (Observed κ)) (final : World (observed κ)) :
      DeliveryEnds host event payload called [] (.ok () final)
  | broken (told : Ledger (Observed κ)) {culprit : Listener (Observed κ)}
      {before final : World (observed κ)} {cause : Fault}
      (untold : Turn host event payload culprit before (.error cause final))
      (missed : Ledger (Observed κ)) :
      DeliveryEnds host event payload (told ++ [culprit]) missed (.error cause final)

theorem DeliveryEnds.cons {event : String} {payload : Value}
    {called missed : Ledger (Observed κ)}
    {outcome : EStateM.Result Fault (World (observed κ)) Unit}
    (ends : DeliveryEnds host event payload called missed outcome)
    (listener : Listener (Observed κ)) :
    DeliveryEnds host event payload (listener :: called) missed outcome := by
  cases ends with
  | completed called final => exact .completed _ final
  | broken told untold missed => exact .broken (listener :: told) untold missed

/-- A turn calls its listener, and then the listener acts. -/
theorem turn_leads (conducts : Conducts hub host) (event : String) (payload : Value)
    (listener : Listener (Observed κ)) (rest : Ledger (Observed κ)) {world : World (observed κ)}
    (present : hub < world.hubs.size) :
    ∃ inner, ownCalls 0 inner = [] ∧ nesting 0 inner = 0 ∧ ∀ starting outer,
      Leads hub world (⟨event, payload, starting, listener :: rest⟩ :: outer)
        (⟨.called listener.callback.id payload, (world.hub hub).bus⟩ :: inner)
        (after (turn host event payload listener) world)
        (⟨event, payload, starting, rest⟩ :: outer) := by
  obtain ⟨inner, innerLeads⟩ := conducts listener.callback payload world present
  refine ⟨inner, (innerLeads []).steps.ownCalls_eq_nil, (innerLeads []).steps.nesting_eq,
    fun starting outer => ?_⟩
  have calling :
      Leads hub world (⟨event, payload, starting, listener :: rest⟩ :: outer)
        [⟨.called listener.callback.id payload, (world.hub hub).bus⟩]
        (world.noted hub (.called listener.callback.id payload))
        (⟨event, payload, starting, rest⟩ :: outer) :=
    .noted rfl rfl
      (.call _ _ ⟨event, payload, starting, listener :: rest⟩ listener rest outer)
  have settling :
      Leads hub (after (host.callback listener.callback payload) world)
        (⟨event, payload, starting, rest⟩ :: outer) []
        (after (turn host event payload listener) world)
        (⟨event, payload, starting, rest⟩ :: outer) :=
    .of_busView_eq (turn_busView host event payload listener world hub) _
  have all := (calling.append (innerLeads _)).append settling
  rwa [List.append_nil, List.singleton_append] at all

/-- A delivery calls the listeners that wait, one after the other, until one of them fails
without a text; nested fires make no call on its behalf. -/
theorem deliver_leads (conducts : Conducts hub host) (event : String) (payload : Value)
    (listeners : Ledger (Observed κ)) {world : World (observed κ)}
    (present : hub < world.hubs.size) :
    ∃ moments called missed,
      listeners = called ++ missed ∧
        ownCalls 0 moments =
          called.map (fun listener => (listener.callback.id, payload)) ∧
        DeliveryEnds host event payload called missed
          ((deliver host event payload listeners).run world) ∧
        ∀ starting outer,
          Leads hub world (⟨event, payload, starting, listeners⟩ :: outer) moments
            (after (deliver host event payload listeners) world)
            (⟨event, payload, starting, missed⟩ :: outer) := by
  induction listeners generalizing world with
  | nil =>
      exact ⟨[], [], [], rfl, rfl, .completed [] world, fun starting outer => .of_busView_eq rfl _⟩
  | cons listener rest inductionHypothesis =>
      have comes := turn_run host event payload listener world
      obtain ⟨inner, innerCalls, innerNesting, turned⟩ :=
        turn_leads conducts event payload listener rest present
      cases outcome : (turn host event payload listener).run world with
      | error cause later =>
          have broken : (deliver host event payload (listener :: rest)).run world =
              .error cause later := by
            rw [deliver_cons, EStateM.run_bind, outcome]
          have stopped : after (deliver host event payload (listener :: rest)) world =
              after (turn host event payload listener) world := by
            rw [after, after, broken, outcome]
          rw [outcome] at comes
          refine ⟨⟨.called listener.callback.id payload, (world.hub hub).bus⟩ :: inner,
            [listener], rest, rfl, ?_, broken ▸ .broken [] comes rest,
            fun starting outer => stopped ▸ turned starting outer⟩
          rw [ownCalls_called, innerCalls]
          rfl
      | ok _ middle =>
          have reached : after (turn host event payload listener) world = middle :=
            after_of_ok outcome
          have goesOn : (deliver host event payload (listener :: rest)).run world =
              (deliver host event payload rest).run middle := by
            rw [deliver_cons, run_bind_ok outcome]
          have delivered : after (deliver host event payload (listener :: rest)) world =
              after (deliver host event payload rest) middle := by
            rw [after, after, goesOn]
          rw [reached] at turned
          have sameHubs : middle.hubs.size = world.hubs.size := (turned [] []).hubs_eq
          obtain ⟨later, called, missed, split, laterCalls, ends, laterLeads⟩ :=
            @inductionHypothesis middle (sameHubs ▸ present)
          refine ⟨⟨.called listener.callback.id payload, (world.hub hub).bus⟩ ::
            (inner ++ later), listener :: called, missed, by rw [split]; rfl,
            ?_, goesOn ▸ ends.cons listener, fun starting outer => ?_⟩
          · rw [ownCalls_called, ownCalls_append, innerCalls, innerNesting, laterCalls]
            rfl
          · rw [delivered]
            exact (turned starting outer).append (laterLeads starting outer)

/-- How a fire ends that has called some of the listeners in its row and missed others: nobody
is missed, and those that are for one delivery are released, or the one that was called last
failed without a text, and nothing more happens. -/
inductive FireEnds (host : Host (observed κ)) (hub : Nat) (event : String) (payload : Value)
    (row : Ledger (Observed κ)) (delivered : World (observed κ)) :
    Ledger (Observed κ) → Ledger (Observed κ) →
      EStateM.Result Fault (World (observed κ)) Unit → Prop where
  | completed {final : World (observed κ)}
      (released : final.busView hub =
        { delivered.busView hub with
          bus := (onceIds row).foldl Bus.remove (delivered.hub hub).bus }) :
      FireEnds host hub event payload row delivered row [] (.ok () final)
  | broken (told : Ledger (Observed κ)) {culprit : Listener (Observed κ)}
      {before : World (observed κ)} {cause : Fault}
      (untold : Turn host event payload culprit before (.error cause delivered))
      (missed : Ledger (Observed κ)) :
      FireEnds host hub event payload row delivered (told ++ [culprit]) missed
        (.error cause delivered)

/-- A fire delivers to the listeners that the event has at its start, and releases
those of them that are for one delivery, unless one of them fails without a text. -/
theorem fire_leads (conducts : Conducts hub host) {world : World (observed κ)}
    (present : hub < world.hubs.size) (event : String) (payload : Value) :
    ∃ moments called missed delivered,
      (world.hub hub).bus.listenersOf event = called ++ missed ∧
        ownCalls 0 moments =
          called.map (fun listener => (listener.callback.id, payload)) ∧
        FireEnds host hub event payload ((world.hub hub).bus.listenersOf event) delivered
          called missed ((fire host hub event payload).run world) ∧
        ∀ outer,
          Leads hub world ((world.stage hub outer).newPass event payload :: outer) moments
            delivered
            (⟨event, payload, (world.hub hub).bus.listenersOf event, missed⟩ :: outer) := by
  have startedView := world.busView_announced hub event payload
  have sameHubs : (world.announced hub event payload).hubs.size = world.hubs.size :=
    congrArg BusView.hubs startedView
  obtain ⟨moments, called, missed, split, calls, ends, leads⟩ :=
    deliver_leads conducts event payload ((world.hub hub).bus.listenersOf event)
      (sameHubs ▸ present : hub < (world.announced hub event payload).hubs.size)
  refine ⟨moments, called, missed, _, split, calls, ?_, fun outer =>
    Leads.append (.of_busView_eq startedView _) (leads _ outer)⟩
  have stillPresent := (leads [] []).hubs_eq.trans sameHubs ▸ present
  rw [fire_run, EStateM.run_bind]
  cases outcome : (deliver host event payload ((world.hub hub).bus.listenersOf event)).run
      (world.announced hub event payload) with
  | ok _ delivered =>
      rw [after_of_ok outcome] at stillPresent ⊢
      obtain ⟨final, released, finalView⟩ :=
        releaseAll_busView stillPresent (onceIds ((world.hub hub).bus.listenersOf event))
      rw [outcome] at ends
      cases ends with
      | completed called _ =>
          rw [List.append_nil] at split
          rw [← split]
          refine (congrArg _ released).mpr ?_
          exact .completed finalView
  | error cause delivered =>
      rw [outcome] at ends
      cases ends with
      | broken told untold missed =>
          have stopped : after (deliver host event payload
              ((world.hub hub).bus.listenersOf event)) (world.announced hub event payload) =
                delivered := by
            rw [after, outcome]
          rw [stopped]
          exact .broken told untold missed

theorem fire_hubs_eq (conducts : Conducts hub host) {world : World (observed κ)}
    (present : hub < world.hubs.size) (event : String) (payload : Value) :
    (after (fire host hub event payload) world).hubs.size = world.hubs.size := by
  obtain ⟨_, _, _, delivered, _, _, ends, leads⟩ := fire_leads conducts present event payload
  have sameHubs : delivered.hubs.size = world.hubs.size := (leads []).hubs_eq
  rw [after]
  generalize (fire host hub event payload).run world = outcome at ends
  cases ends with
  | completed released => exact (congrArg BusView.hubs released).trans sameHubs
  | broken told untold missed => exact sameHubs

/-! ## Code and behaviours -/

theorem attempt_run_ok {act : Effect (observed κ) Unit} {world final : World (observed κ)}
    (ran : act.run world = .ok () final) : (attempt act).run world = .ok none final := by
  rw [attempt, run_tryCatch, run_bind_ok ran]
  rfl

theorem attempt_run_error {act : Effect (observed κ) Unit} {world final : World (observed κ)}
    {fault : Fault} (failed : act.run world = .error fault final) :
    (attempt act).run world = .ok (some fault) final := by
  rw [attempt, run_tryCatch, EStateM.run_bind, failed]
  rfl

theorem stage_of_busView {world : World (observed κ)} {view : BusView (observed κ)}
    (same : world.busView hub = view) (passes : List (Pass κ)) :
    world.stage hub passes = ⟨view.bus, view.listenerIds, passes⟩ := by
  subst same
  rfl

/-- An operation on the bus that is noted down, and what follows it. -/
theorem narrates_operation {α : Type} {operation : Effect (observed κ) α} {value : α}
    {world middle : World (observed κ)} {bus : Bus (Observed κ)} {given : Nat}
    {deed : α → Deed κ} {next : α → Effect (observed κ) Unit}
    (present : hub < world.hubs.size) (ran : operation.run world = .ok value middle)
    (view : middle.busView hub =
      { world.busView hub with bus := bus, listenerIds := given })
    (step : ∀ passes,
      Stage.Step (world.stage hub passes) (deed value) ⟨bus, given, passes⟩)
    (narrates : Narrates hub (next value)) :
    ∃ moments, ∀ passes,
      Leads hub world passes moments
        (after
          (do
            let value ← operation
            note hub (deed value)
            next value)
          world)
        passes := by
  have sameHubs : middle.hubs.size = world.hubs.size := congrArg BusView.hubs view
  have sameMemory : middle.memory = world.memory := congrArg BusView.memory view
  have sameStage (passes : List (Pass κ)) :
      middle.stage hub passes = ⟨bus, given, passes⟩ := stage_of_busView view passes
  obtain ⟨moments, leads⟩ :=
    narrates (middle.noted hub (deed value)) (sameHubs ▸ present)
  refine ⟨⟨deed value, (middle.hub hub).bus⟩ :: moments, fun passes => ?_⟩
  have noting :
      Leads hub world passes [⟨deed value, (middle.hub hub).bus⟩]
        (middle.noted hub (deed value)) passes :=
    .noted sameHubs sameMemory (sameStage passes ▸ step passes)
  rw [after_bind_ok ran, after_bind_ok (note_run middle hub _)]
  exact noting.append (leads passes)

/-- A fire that is noted down, from its beginning until it is over or broken off, and what
follows it. -/
theorem narrates_fire (conducts : Conducts hub host) (event : String) (payload : Value)
    {next : Option Fault → Effect (observed κ) Unit}
    (narrates : ∀ failure, Narrates hub (next failure)) {world : World (observed κ)}
    (present : hub < world.hubs.size) :
    ∃ moments, ∀ passes,
      Leads hub world passes moments
        (after
          (do
            note hub (.began event payload)
            let failure ← attempt (fire host hub event payload)
            note hub (.ending failure)
            next failure)
          world)
        passes := by
  have begun (outer : List (Pass κ)) :
      Leads hub world outer [⟨.began event payload, (world.hub hub).bus⟩]
        (world.noted hub (.began event payload))
        ((world.stage hub outer).newPass event payload :: outer) :=
    .noted rfl rfl (.begin (world.stage hub outer) event payload)
  obtain ⟨during, called, missed, delivered, _, _, ends, delivery⟩ :=
    @fire_leads _ hub host conducts (world.noted hub (.began event payload)) present event payload
  have sameHubs : delivered.hubs.size = world.hubs.size := (delivery []).hubs_eq
  rw [after_bind_ok (note_run world hub _)]
  generalize outcome : (fire host hub event payload).run
    (world.noted hub (.began event payload)) = result at ends
  cases ends with
  | @completed final released =>
      have ended (passes : List (Pass κ)) :
          Leads hub delivered
            (⟨event, payload, (world.hub hub).bus.listenersOf event, []⟩ :: passes)
            [⟨.ended, (final.hub hub).bus⟩] (final.noted hub .ended) passes := by
        refine .noted (congrArg BusView.hubs released) (congrArg BusView.memory released) ?_
        rw [stage_of_busView released]
        exact .finish _ _ ((world.stage hub passes).newPass event payload) passes
      have finalHubs : final.hubs.size = world.hubs.size :=
        (congrArg BusView.hubs released).trans sameHubs
      obtain ⟨later, laterLeads⟩ :=
        narrates none (final.noted hub .ended) (finalHubs ▸ present)
      rw [after_bind_ok (attempt_run_ok outcome), after_bind_ok (note_run final hub _)]
      exact ⟨_, fun passes =>
        (((begun passes).append (delivery passes)).append (ended passes)).append
          (laterLeads passes)⟩
  | @broken told culprit before cause untold missed =>
      have abandoned (passes : List (Pass κ)) :
          Leads hub delivered
            (⟨event, payload, (world.hub hub).bus.listenersOf event, missed⟩ :: passes)
            [⟨.abandoned, (delivered.hub hub).bus⟩] (delivered.noted hub .abandoned) passes :=
        .noted rfl rfl (.abandon _ _ _ passes)
      obtain ⟨later, laterLeads⟩ :=
        narrates (some cause) (delivered.noted hub .abandoned) (sameHubs ▸ present)
      rw [after_bind_ok (attempt_run_error outcome), after_bind_ok (note_run delivered hub _)]
      exact ⟨_, fun passes =>
        (((begun passes).append (delivery passes)).append (abandoned passes)).append
          (laterLeads passes)⟩

/-- A run of code notes down the steps that it takes, whether or not it fails. -/
theorem run_narrates (conducts : Conducts hub host) (code : Code κ) :
    Narrates hub (code.run host hub) := by
  induction code with
  | done => exact fun world _ => ⟨[], fun passes => .of_busView_eq rfl passes⟩
  | fail fault => exact fun world _ => ⟨[], fun passes => .of_busView_eq rfl passes⟩
  | look next inductionHypothesis =>
      intro world present
      rw [Code.run, after_bind_ok (EStateM.run_get world)]
      exact inductionHypothesis _ _ world present
  | listen event name options next inductionHypothesis =>
      intro world present
      obtain ⟨middle, ran, view⟩ :=
        listen_busView present event ⟨listenerId (world.listenerIds + 1), name⟩ options
      rw [Code.run, after_bind_ok (EStateM.run_get world)]
      exact narrates_operation present ran view
        (fun passes => .register (world.stage hub passes) event name options)
        (inductionHypothesis _)
  | release id next inductionHypothesis =>
      intro world present
      obtain ⟨middle, ran, view⟩ := release_busView present id
      exact narrates_operation present ran view
        (fun passes => .remove (world.stage hub passes) id) inductionHypothesis
  | releaseOwner owner next inductionHypothesis =>
      intro world present
      obtain ⟨middle, ran, view⟩ := releaseOwner_busView present owner
      exact narrates_operation present ran view
        (fun passes => .removeOwner (world.stage hub passes) owner) inductionHypothesis
  | drop next inductionHypothesis =>
      intro world present
      obtain ⟨middle, ran, view⟩ := dropListeners_busView present
      exact narrates_operation present ran view
        (fun passes => .clear (world.stage hub passes)) inductionHypothesis
  | fire event payload next inductionHypothesis =>
      intro world present
      exact narrates_fire conducts event payload inductionHypothesis present

theorem observing_conducts {act : Observed κ → Value → Effect (observed κ) Unit}
    (narrates : ∀ who payload, Narrates hub (act who payload)) :
    Conducts hub (observing hub act) := by
  intro who payload world present
  have acted :
      after ((observing hub act).callback who payload) world =
        after (act who payload) (world.noted hub (.called who.id payload)) :=
    after_bind_ok (note_run world hub _)
  rw [acted]
  exact narrates who payload _ present

/-- Whatever the listeners do, and however deep deliveries are nested, they note it
down. -/
theorem behaviour_conducts (behaviour : Behaviour κ) (hub depth : Nat) :
    Conducts hub (behaviour.host hub depth) := by
  induction depth with
  | zero =>
      exact observing_conducts fun _ _ world _ =>
        ⟨[], fun passes => .of_busView_eq rfl passes⟩
  | succ depth inductionHypothesis =>
      exact observing_conducts fun who payload =>
        run_narrates inductionHypothesis (behaviour who payload)

end World

end CommandHost
