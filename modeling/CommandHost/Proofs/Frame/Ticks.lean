import CommandHost.Proofs.Frame.Catalogue

/-!
# What a frame does

A frame goes through the modules in the order in which they were registered.  It lets the
objects of a module that listen act, in the order of the registry, and then publishes how
many objects the module has.  `Ticked` follows the handlers that are called.  As long as
none of them fails or changes registries, the frame calls the handlers of all registered
objects that listen, and what it changes besides are the published counts.

The handlers themselves may write to the store, let objects listen, or set the number of the
frame.  So what is said about these is said of what no handler takes away (`Undisturbed`).
-/

namespace CommandHost

variable {V : Vocabulary}

namespace World

/-- The objects of a module that listen to frames, in the order of the registry. -/
def listenersIn (world : World V) (place : Nat) : List Nat :=
  (world.moduleOf place).registry.objects.values.filter fun handle =>
    (world.object handle).listensToFrames

/-- The objects that a frame lets act. -/
def frameCalls (world : World V) : List Nat := world.registered.values.flatMap world.listenersIn

/-- Where the number of objects of a module is published. -/
def countKey (world : World V) (name : String) : String :=
  name ++ (world.context mainContext).config.countSuffix

/-- Some handlers were called with a number, one after the other, and none of them failed.
In between, numbers of objects were published. -/
inductive Ticked (host : Host V) (number : Int) (start : World V) : List Nat → World V → Prop where
  | begun : Ticked host number start [] start
  | called {calls : List Nat} {middle later : World V} {handle : Nat} {ticker : V.Ticker}
      (ticked : Ticked host number start calls middle)
      (listens : (middle.object handle).kind.ticker = some ticker)
      (ran : (host.ticker ticker handle number).run middle = .ok () later) :
      Ticked host number start (calls ++ [handle]) later
  | published {calls : List Nat} {middle : World V}
      (ticked : Ticked host number start calls middle) (place : Nat) :
      Ticked host number start calls (after (publishCount place) middle)

/-- A world in the midst of a frame: some of the handlers were called, and the next one is
about to be. -/
structure Amid (host : Host V) (number : Int) (world middle : World V) (handle : Nat)
    (ticker : V.Ticker) : Prop where
  ticked : ∃ calls, calls ++ [handle] <+: world.frameCalls ∧
    Ticked host number { world with frame := number } calls middle
  listens : (middle.object handle).kind.ticker = some ticker

/-- None of the handlers that a frame calls fails, or changes registries. -/
def Calm (host : Host V) (number : Int) (world : World V) : Prop :=
  ∀ middle handle ticker, Amid host number world middle handle ticker →
    ∃ later, (host.ticker ticker handle number).run middle = .ok () later ∧
      middle.Elsewhere later

/-- None of the handlers that a frame calls takes away what holds when it is called. -/
def Undisturbed (host : Host V) (number : Int) (world : World V) (holds : World V → Prop) :
    Prop :=
  ∀ middle handle ticker later, Amid host number world middle handle ticker →
    (host.ticker ticker handle number).run middle = .ok () later → holds middle → holds later

/-- What a frame of a number has done.  The number of the frame, the store and the buses are
as a frame leaves them as long as no handler puts something else there. -/
structure Framed (host : Host V) (number : Int) (world final : World V) : Prop where
  ticked : Ticked host number { world with frame := number } world.frameCalls final
  /-- An object that listens is called once for each module that has it registered. -/
  count_eq : ∀ handle, world.frameCalls.count handle =
    if (world.object handle).listensToFrames = true then
      (world.registered.values.filter fun place =>
        decide (handle ∈ (world.moduleOf place).registry.objects.values)).length
    else 0
  registries_eq : ∀ place, (final.moduleOf place).registry = (world.moduleOf place).registry
  registered_eq : final.registered = world.registered
  keys_nodup : (world.registered.keys.map world.countKey).Nodup
  frame_eq : Undisturbed host number world (fun middle => middle.frame = number) →
    final.frame = number
  published : ∀ name place, world.registered.get? name = some place →
    Undisturbed host number world (fun middle =>
        (middle.hub world.mainHub).store.items.get? (world.countKey name) =
          some (.int (world.moduleOf place).registry.count)) →
      (final.hub final.mainHub).store.items.get? (world.countKey name) =
        some (.int (world.moduleOf place).registry.count)
  others_eq : ∀ key : Atom, (∀ name ∈ world.registered.keys, key ≠ .text (world.countKey name)) →
    Undisturbed host number world (fun middle =>
        (middle.hub world.mainHub).store.items.find? key =
          (world.hub world.mainHub).store.items.find? key) →
      (final.hub final.mainHub).store.items.find? key =
        (world.hub world.mainHub).store.items.find? key
  bus_eq : Undisturbed host number world (fun middle =>
      (middle.hub world.mainHub).bus = (world.hub world.mainHub).bus) →
    (final.hub final.mainHub).bus = (world.hub world.mainHub).bus

variable {host : Host V} {number : Int} {world middle later : World V}

/-! ## The objects that are called -/

theorem Catalogued.values_nodup (catalogued : world.Catalogued) (place : Nat) :
    (world.moduleOf place).registry.objects.values.Nodup := by
  have keyed := catalogued.keyed place
  have keys_eq : (world.moduleOf place).registry.objects.keys =
      (world.moduleOf place).registry.objects.values.map fun handle =>
        (world.object handle).id := by
    rw [Table.keys, Table.values, List.map_map]
    exact List.map_congr_left fun entry member =>
      (keyed.own_id entry member (Nat.zero_le _)).symm
  have distinct : (world.moduleOf place).registry.objects.keys.Nodup := keyed.keys_nodup
  rw [keys_eq] at distinct
  exact distinct.of_map

theorem Catalogued.frameListeners_eq (catalogued : world.Catalogued) (place : Nat) :
    (world.moduleOf place).registry.frameListeners.values = world.listenersIn place := by
  have listeners_eq : (world.moduleOf place).registry.frameListeners =
      (world.moduleOf place).registry.objects.filter fun entry =>
        (world.object entry.2).listensToFrames := (catalogued.keyed place).listeners_eq
  rw [listeners_eq, listenersIn, Table.values, Table.values, List.filter_map]
  rfl

theorem Catalogued.count_listenersIn (catalogued : world.Catalogued) (place handle : Nat) :
    (world.listenersIn place).count handle =
      if (world.object handle).listensToFrames = true ∧
        handle ∈ (world.moduleOf place).registry.objects.values then 1 else 0 := by
  have distinct := (catalogued.values_nodup place).filter fun handle =>
    (world.object handle).listensToFrames
  rw [listenersIn, distinct.count]
  refine if_congr ?_ rfl rfl
  rw [List.mem_filter, and_comm]

theorem Catalogued.count_flatMap (catalogued : world.Catalogued) (places : List Nat)
    (handle : Nat) :
    (places.flatMap world.listenersIn).count handle =
      if (world.object handle).listensToFrames = true then
        (places.filter fun place =>
          decide (handle ∈ (world.moduleOf place).registry.objects.values)).length
      else 0 := by
  induction places with
  | nil => simp
  | cons place rest inductionHypothesis =>
      rw [List.flatMap_cons, List.count_append, inductionHypothesis,
        catalogued.count_listenersIn, List.filter_cons]
      by_cases listens : (world.object handle).listensToFrames = true
      · by_cases holds : handle ∈ (world.moduleOf place).registry.objects.values
        · simp [listens, holds, Nat.add_comm]
        · simp [listens, holds]
      · simp [listens]

/-- Who is called is there, and listens. -/
theorem Catalogued.mem_frameCalls (catalogued : world.Catalogued) {handle : Nat}
    (member : handle ∈ world.frameCalls) :
    handle < world.objects.size ∧ ∃ ticker, (world.object handle).kind.ticker = some ticker := by
  obtain ⟨place, -, inside⟩ := List.mem_flatMap.mp member
  obtain ⟨registered, listens⟩ := List.mem_filter.mp inside
  obtain ⟨entry, isEntry, rfl⟩ := List.mem_map.mp registered
  exact ⟨(catalogued.keyed place).lt_count entry isEntry, Option.isSome_iff_exists.mp listens⟩

/-! ## The course of a frame -/

/-- In the course of a frame: what was called so far, and what has changed. -/
structure Underway (host : Host V) (number : Int) (world : World V) (calls : List Nat)
    (middle : World V) : Prop where
  ticked : Ticked host number { world with frame := number } calls middle
  elsewhere : world.Elsewhere middle
  frame_eq : Undisturbed host number world (fun middle => middle.frame = number) →
    middle.frame = number

/-- What no handler takes away holds on. -/
def Sustains (host : Host V) (number : Int) (world middle later : World V) : Prop :=
  ∀ holds : World V → Prop, Undisturbed host number world holds → holds middle → holds later

theorem tick_underway (catalogued : world.Catalogued) (calm : Calm host number world)
    {calls : List Nat} {handle : Nat} (next : calls ++ [handle] <+: world.frameCalls)
    (underway : Underway host number world calls middle) :
    ∃ later, (tick host number handle).run middle = .ok () later ∧
      Underway host number world (calls ++ [handle]) later ∧
        Sustains host number world middle later := by
  obtain ⟨there, ticker, listens⟩ :=
    catalogued.mem_frameCalls (next.subset (List.mem_append_right calls List.mem_cons_self))
  -- No handler changes classes, so that the object listens still.
  rw [← (underway.elsewhere.object_eq handle there).2] at listens
  have amid : Amid host number world middle handle ticker :=
    ⟨⟨calls, next, underway.ticked⟩, listens⟩
  obtain ⟨later, ran, elsewhere⟩ := calm middle handle ticker amid
  have sustains : Sustains host number world middle later :=
    fun _ undisturbed => undisturbed middle handle ticker later amid ran
  refine ⟨later, ?_, ⟨.called underway.ticked listens ran, underway.elsewhere.trans elsewhere,
    fun undisturbed => sustains _ undisturbed (underway.frame_eq undisturbed)⟩, sustains⟩
  rw [tick, run_bind_ok (EStateM.run_get middle)]
  simp only [listens]
  exact ran

theorem forM_tick_underway (catalogued : world.Catalogued) (calm : Calm host number world)
    {calls handles : List Nat} (next : calls ++ handles <+: world.frameCalls)
    (underway : Underway host number world calls middle) :
    ∃ later, (handles.forM (tick host number)).run middle = .ok () later ∧
      Underway host number world (calls ++ handles) later ∧
        Sustains host number world middle later := by
  induction handles generalizing calls middle with
  | nil => exact ⟨middle, rfl, by rwa [List.append_nil], fun _ _ held => held⟩
  | cons handle rest inductionHypothesis =>
      rw [List.append_cons] at next
      obtain ⟨ticked, ranFirst, underwayFirst, sustainsFirst⟩ :=
        tick_underway catalogued calm ((List.prefix_append _ rest).trans next) underway
      obtain ⟨later, ranRest, underwayRest, sustainsRest⟩ :=
        inductionHypothesis next underwayFirst
      refine ⟨later, (run_bind_ok ranFirst).trans ranRest, ?_, fun holds undisturbed held => ?_⟩
      · rwa [List.append_cons]
      · exact sustainsRest holds undisturbed (sustainsFirst holds undisturbed held)

/-- Publishing changes one key of the store of the hub that the context of a module names. -/
theorem publishCount_run (place : Nat) (hub_there : world.mainHub < world.hubs.size)
    (shares : (world.moduleOf place).context = mainContext) :
    ∃ later, (publishCount place).run world = .ok () later ∧ world.Elsewhere later ∧
      later.frame = world.frame ∧
        later.hub world.mainHub =
          { world.hub world.mainHub with
            store := (world.hub world.mainHub).store.set
              (.text (world.countKey (world.moduleOf place).name))
              (.int (world.moduleOf place).registry.count) } := by
  refine ⟨_, rfl, .updateHub world _ _, rfl, ?_⟩
  rw [shares]
  change (World.mk _ (world.hubs.modify world.mainHub _) ..).hub world.mainHub = _
  simp [hub, Array.getD, hub_there, Array.getElem_modify_self, countKey]

/-- A hub after the number of objects of a module was published in it. -/
def publishedIn (world : World V) (place : Nat) (hub : Hub V) : Hub V :=
  { hub with
    store := hub.store.set (.text (world.countKey (world.moduleOf place).name))
      (.int (world.moduleOf place).registry.count) }

theorem publishCount_underway (catalogued : world.Catalogued) {place : Nat}
    (there : place < world.modules.size) (shares : (world.moduleOf place).context = mainContext)
    {calls : List Nat} (underway : Underway host number world calls middle) :
    ∃ later, (publishCount place).run middle = .ok () later ∧
      Underway host number world calls later ∧
        later.hub world.mainHub = world.publishedIn place (middle.hub world.mainHub) := by
  have elsewhere := underway.elsewhere
  obtain ⟨name_eq, context_eq⟩ := elsewhere.module_eq place there
  obtain ⟨later, ran, further, frame_eq, hub_eq⟩ :=
    publishCount_run place (catalogued.elsewhere elsewhere).hub_there (context_eq.trans shares)
  have published := Ticked.published underway.ticked place
  rw [after_of_ok ran] at published
  refine ⟨later, ran, ⟨published, elsewhere.trans further,
    fun undisturbed => frame_eq.trans (underway.frame_eq undisturbed)⟩, ?_⟩
  rw [elsewhere.context_eq.1, name_eq, elsewhere.registry_eq, countKey,
    elsewhere.context_eq.2] at hub_eq
  exact hub_eq

theorem frameIn_underway (catalogued : world.Catalogued) (calm : Calm host number world)
    {place : Nat} (there : place < world.modules.size)
    (shares : (world.moduleOf place).context = mainContext) {calls : List Nat}
    (next : calls ++ world.listenersIn place <+: world.frameCalls)
    (underway : Underway host number world calls middle) :
    ∃ ticked later, (frameIn host place number).run middle = .ok () later ∧
      Underway host number world (calls ++ world.listenersIn place) later ∧
        Sustains host number world middle ticked ∧
          later.hub world.mainHub = world.publishedIn place (ticked.hub world.mainHub) := by
  obtain ⟨ticked, ranTicks, underwayTicks, sustains⟩ :=
    forM_tick_underway catalogued calm next underway
  obtain ⟨later, ranPublish, underwayLater, hub_eq⟩ :=
    publishCount_underway catalogued there shares underwayTicks
  refine ⟨ticked, later, ?_, underwayLater, sustains, hub_eq⟩
  rw [frameIn, run_bind_ok (EStateM.run_get middle), underway.elsewhere.registry_eq,
    catalogued.frameListeners_eq]
  exact (run_bind_ok ranTicks).trans ranPublish

/-- What the modules of some places have done to the hub of the program: what holds of it
holds on unless a handler or one of these modules takes it away, and each of them has
published a number of objects. -/
structure Publishes (host : Host V) (number : Int) (world : World V) (places : List Nat)
    (middle later : World V) : Prop where
  sustains : ∀ holds : Hub V → Prop,
    Undisturbed host number world (fun middle => holds (middle.hub world.mainHub)) →
      (∀ place ∈ places, ∀ hub, holds hub → holds (world.publishedIn place hub)) →
        holds (middle.hub world.mainHub) → holds (later.hub world.mainHub)
  published : (places.map fun place => world.countKey (world.moduleOf place).name).Nodup →
    ∀ place ∈ places, Undisturbed host number world (fun middle =>
      (middle.hub world.mainHub).store.items.get? (world.countKey (world.moduleOf place).name) =
        some (.int (world.moduleOf place).registry.count)) →
      (later.hub world.mainHub).store.items.get? (world.countKey (world.moduleOf place).name) =
        some (.int (world.moduleOf place).registry.count)

theorem Publishes.cons {ticked : World V} {place : Nat} {places : List Nat}
    (sustains : Sustains host number world middle ticked)
    {published : World V} (hub_eq : published.hub world.mainHub =
      world.publishedIn place (ticked.hub world.mainHub))
    (publishes : Publishes host number world places published later) :
    Publishes host number world (place :: places) middle later where
  sustains holds undisturbed keeps held := by
    refine publishes.sustains holds undisturbed
      (fun other member => keeps other (List.mem_cons_of_mem place member)) ?_
    rw [hub_eq]
    exact keeps place List.mem_cons_self _ (sustains _ undisturbed held)
  published distinct other member undisturbed := by
    rw [List.map_cons, List.nodup_cons] at distinct
    rcases List.mem_cons.mp member with rfl | later
    · -- The modules that come later publish under other keys.
      refine publishes.sustains (fun hub =>
        hub.store.items.get? (world.countKey (world.moduleOf other).name) =
          some (.int (world.moduleOf other).registry.count)) undisturbed
        (fun further isFurther hub held => ?_) ?_
      · have different : world.countKey (world.moduleOf other).name ≠
            world.countKey (world.moduleOf further).name := fun same =>
          distinct.1 (List.mem_map.mpr ⟨further, isFurther, same.symm⟩)
        exact ((Entries.get?_set ..).trans (if_neg different)).trans held
      · rw [hub_eq]
        exact (Entries.get?_set ..).trans (if_pos rfl)
    · exact publishes.published distinct.2 other later undisturbed

theorem forM_frameIn_underway (catalogued : world.Catalogued) (calm : Calm host number world)
    {places : List Nat} (there : ∀ place ∈ places, place < world.modules.size)
    (shares : ∀ place ∈ places, (world.moduleOf place).context = mainContext)
    {calls : List Nat} (next : calls ++ places.flatMap world.listenersIn <+: world.frameCalls)
    (underway : Underway host number world calls middle) :
    ∃ later, (places.forM fun place => frameIn host place number).run middle = .ok () later ∧
      Underway host number world (calls ++ places.flatMap world.listenersIn) later ∧
        Publishes host number world places middle later := by
  induction places generalizing calls middle with
  | nil => exact ⟨middle, rfl, by simpa using underway, fun _ _ _ held => held, nofun⟩
  | cons place rest inductionHypothesis =>
      rw [List.flatMap_cons, ← List.append_assoc] at next ⊢
      obtain ⟨ticked, published, ranFirst, underwayFirst, sustains, hub_eq⟩ :=
        frameIn_underway catalogued calm (there place List.mem_cons_self)
          (shares place List.mem_cons_self) ((List.prefix_append _ _).trans next) underway
      obtain ⟨later, ranRest, underwayRest, publishes⟩ :=
        inductionHypothesis (fun other member => there other (List.mem_cons_of_mem place member))
          (fun other member => shares other (List.mem_cons_of_mem place member)) next underwayFirst
      exact ⟨later, (run_bind_ok ranFirst).trans ranRest, underwayRest,
        publishes.cons sustains hub_eq⟩

/-! ## Frames -/

theorem countKey_injective (world : World V) : Function.Injective world.countKey := by
  intro name other same
  have characters := congrArg String.toList same
  rw [countKey, countKey, String.toList_append, String.toList_append] at characters
  exact String.toList_injective (List.append_cancel_right characters)

theorem Catalogued.entry (catalogued : world.Catalogued) {place : Nat}
    (member : place ∈ world.registered.values) :
    ∃ name ∈ world.registered.keys, world.registered.get? name = some place ∧
      place < world.modules.size ∧ (world.moduleOf place).name = name := by
  obtain ⟨⟨name, other⟩, isEntry, rfl⟩ := List.mem_map.mp member
  have found := (Table.mem_iff_get? catalogued.names_nodup).mp isEntry
  exact ⟨name, List.mem_map.mpr ⟨_, isEntry, rfl⟩, found, catalogued.registered name other found⟩

theorem Catalogued.countKeys_eq (catalogued : world.Catalogued) :
    (world.registered.values.map fun place => world.countKey (world.moduleOf place).name) =
      world.registered.keys.map world.countKey := by
  rw [Table.values, Table.keys, List.map_map, List.map_map]
  refine List.map_congr_left fun entry member => ?_
  have found := (Table.mem_iff_get? catalogued.names_nodup).mp member
  exact congrArg world.countKey (catalogued.registered entry.1 entry.2 found).2

/-- In every world that a program can get into, a frame whose handlers neither fail nor change
registries calls each registered object that listens, in order, and publishes how many objects
each module has.  All else is what the handlers make of it. -/
theorem Running.runFrame_framed (running : world.Running)
    (shares : ∀ name place, world.registered.get? name = some place →
      (world.moduleOf place).context = mainContext)
    (given : Option Int) (calm : Calm host (given.getD (world.frame + 1)) world) :
    ∃ final, (runFrame host given).run world = .ok (given.getD (world.frame + 1)) final ∧
      Framed host (given.getD (world.frame + 1)) world final := by
  have catalogued := running.catalogued
  generalize number_eq : given.getD (world.frame + 1) = number at calm ⊢
  have begun : Underway host number world [] { world with frame := number } :=
    ⟨.begun, { Elsewhere.refl world with }, fun _ => rfl⟩
  obtain ⟨final, ran, underway, publishes⟩ :=
    forM_frameIn_underway catalogued calm
      (fun place member => (catalogued.entry member).elim fun _ entry => entry.2.2.1)
      (fun place member => (catalogued.entry member).elim fun name entry =>
        shares name place entry.2.1)
      (by rw [List.nil_append]; exact List.prefix_refl _) begun
  have keys_nodup : (world.registered.keys.map world.countKey).Nodup :=
    catalogued.names_nodup.map world.countKey_injective
  refine ⟨final, ?_, underway.ticked,
    catalogued.count_flatMap world.registered.values, underway.elsewhere.registry_eq,
    underway.elsewhere.registered_eq, keys_nodup, underway.frame_eq,
    fun name place found undisturbed => ?_, fun key different undisturbed => ?_,
    fun undisturbed => ?_⟩
  · rw [runFrame, run_bind_ok (EStateM.run_get world), number_eq]
    exact run_bind_ok ran
  · obtain ⟨there, name_eq⟩ := catalogued.registered name place found
    have member : place ∈ world.registered.values :=
      List.mem_map.mpr ⟨_, (Table.mem_iff_get? catalogued.names_nodup).mpr found, rfl⟩
    rw [underway.elsewhere.context_eq.1, ← name_eq]
    rw [← name_eq] at undisturbed
    exact publishes.published (catalogued.countKeys_eq ▸ keys_nodup) place member undisturbed
  · rw [underway.elsewhere.context_eq.1]
    refine publishes.sustains (fun hub => hub.store.items.find? key =
      (world.hub world.mainHub).store.items.find? key) undisturbed
        (fun place member hub held => ?_) rfl
    obtain ⟨name, isName, -, -, name_eq⟩ := catalogued.entry member
    exact (Entries.find?_assign_of_ne _ (name_eq ▸ different name isName) _).trans held
  · rw [underway.elsewhere.context_eq.1]
    exact publishes.sustains (fun hub => hub.bus = (world.hub world.mainHub).bus) undisturbed
      (fun _ _ _ held => held) rfl

/-- A program whose objects do nothing but shift at frames is still running after a frame. -/
theorem Running.framed (running : world.Running)
    (tickers : ∀ ticker handle frame middle,
      Shifts middle (after (host.ticker ticker handle frame) middle))
    (given : Option Int) : (after (runFrame host given) world).Running := by
  obtain ⟨config, verbs, memory, shifts⟩ := running
  refine ⟨config, verbs, memory, ?_⟩
  generalize start config verbs memory = origin at shifts
  have ticks (frame : Int) (handle : Nat) : Keeps (Shifts origin) (tick host frame handle) := by
    refine .look fun middle shifted => ?_
    cases (middle.object handle).kind.ticker with
    | none => exact shifted
    | some ticker => exact shifted.trans (tickers ticker handle frame middle)
  have publishes (place : Nat) : Keeps (Shifts origin) (publishCount place) :=
    fun middle shifted => shifted.tail (.elsewhere (.updateHub middle _ _))
  have frames (frame : Int) (place : Nat) : Keeps (Shifts origin) (frameIn host place frame) :=
    .look fun middle shifted =>
      Keeps.bind (.forM (ticks frame)) (fun _ => publishes place) middle shifted
  have numbers (frame : Int) : Keeps (Shifts origin)
      (modify fun middle : World V => { middle with frame }) :=
    fun middle shifted => shifted.tail (.elsewhere { Elsewhere.refl middle with })
  have runs : Keeps (Shifts origin) (runFrame host given) := .look fun middle shifted =>
    Keeps.bind (numbers _)
      (fun _ => .look fun later further => Keeps.bind (.forM (frames _)) (fun _ => .pure _) later
        further) middle shifted
  exact runs world shifts

end World

/-- Words for objects that listen to frames. -/
abbrev metronomeWords : Vocabulary where
  Callback := Unit
  Handler := Empty
  Verb := Empty
  Ticker := Unit
  Hook := Empty
  Note := Nat × Int
  Memory := Unit

/-- A host whose objects note down the frames that they hear of. -/
def metronome : Host metronomeWords where
  callback _ _ := pure ()
  handler := nofun
  verb := nofun
  ticker _ handle number := Effect.note (handle, number)
  hook := nofun

/-- Modules that can create pendulums, which listen to frames. -/
def clockmaker : ModuleClass metronomeWords :=
  ⟨[("pendulum", ⟨"Pendulum", [], [], some (), none⟩)], .builtin, none⟩

namespace World

theorem metronome_elsewhere (ticker : Unit) (handle : Nat) (number : Int)
    (middle : World metronomeWords) :
    middle.Elsewhere (after (metronome.ticker ticker handle number) middle) :=
  { Elsewhere.refl middle with }

/-- Two modules of clocks. -/
def clockshop : World metronomeWords :=
  after (registerModule 1)
    (after (registerModule 0)
      (after (makeModule clockmaker "tower" mainContext)
        (after (makeModule clockmaker "wall" mainContext) (start .standard [] ()))))

def pendulum : Value := .map (Entries.ofTexts [("_type", .text "pendulum")])

/-- Two pendulums and a plain object, which was created between them. -/
def assembled : World metronomeWords :=
  after (create metronome 0 pendulum)
    (after (create metronome 0 (.map (Entries.ofTexts [("_id", .text "case")])))
      (after (create metronome 1 pendulum) clockshop))

/-- The clocks after a first frame, with the plain object removed again. -/
def clockwork : World metronomeWords :=
  after (remove 0 "case") (after (runFrame metronome (some 4)) assembled)

theorem clockwork_running : clockwork.Running := by
  have hooks : metronome.Shifts := nofun
  have made := ((Relation.ReflTransGen.refl (r := Shift)).tail
    (.elsewhere (.makeModule (start .standard [] ()) clockmaker "wall" mainContext))).tail
      (.elsewhere (.makeModule _ clockmaker "tower" mainContext))
  have registered := (made.tail (.registered 0 (by decide +kernel))).tail
    (.registered 1 (by decide +kernel))
  have running : clockshop.Running := ⟨.standard, [], (), registered⟩
  have assembles : assembled.Running :=
    ((running.created hooks 1 _).created hooks 0 _).created hooks 0 _
  have ticked := assembles.framed (fun ticker handle number middle =>
    .single (.elsewhere (metronome_elsewhere ticker handle number middle))) (some 4)
  exact ticked.removed 0 "case"

theorem clockwork_shares (name : String) (place : Nat)
    (found : clockwork.registered.get? name = some place) :
    (clockwork.moduleOf place).context = mainContext := by
  have registered : ∀ entry ∈ clockwork.registered,
      (clockwork.moduleOf entry.2).context = mainContext := by decide +kernel
  exact registered (name, place) (Table.mem_of_get? found)

theorem Running.runFrame_framed_clockwork :
    clockwork.Running ∧ clockwork.frameCalls = [2, 0] ∧
      ∃ final, (runFrame metronome none).run clockwork = .ok 5 final ∧
        Framed metronome 5 clockwork final := by
  have calm (number : Int) : Calm metronome number clockwork :=
    fun middle handle ticker _ => ⟨_, rfl, metronome_elsewhere ticker handle number middle⟩
  have frame_eq : (none : Option Int).getD (clockwork.frame + 1) = 5 := by decide +kernel
  have framed := Running.runFrame_framed clockwork_running clockwork_shares none (calm _)
  rw [frame_eq] at framed
  exact ⟨clockwork_running, by decide +kernel, framed⟩

/-- The clocks with one of the pendulums in both of them. -/
def entwined : World metronomeWords := after (addObject 0 0) clockwork

theorem entwined_running : entwined.Running := by
  obtain ⟨config, verbs, memory, shifts⟩ := clockwork_running
  exact ⟨config, verbs, memory, shifts.tail (.added 0 (by decide +kernel))⟩

/-- What objects have noted down: who has heard of which frame. -/
def heard (world : World metronomeWords) : List (Nat × Int) :=
  world.journal.toList.filterMap fun
    | .note content => some content
    | .log _ => none

/-- An object that two modules have registered hears of a frame twice. -/
theorem runFrame_entwined :
    entwined.Running ∧
      (∀ entry ∈ entwined.registered, (entwined.moduleOf entry.2).context = mainContext) ∧
      Calm metronome 5 entwined ∧
      ∃ final, (runFrame metronome none).run entwined = .ok 5 final ∧
        final.heard.drop entwined.heard.length = [(2, 5), (0, 5), (0, 5)] := by
  have returns :
      returnsWith (runFrame metronome none) entwined (fun number _ => number == 5) = true := by
    decide +kernel
  obtain ⟨number, final, outcome, isFive⟩ := exists_ok_of_returnsWith returns
  obtain rfl : number = 5 := beq_iff_eq.mp isFive
  refine ⟨entwined_running, by decide +kernel, fun middle handle ticker _ =>
    ⟨_, rfl, metronome_elsewhere ticker handle 5 middle⟩, final, outcome, ?_⟩
  rw [← after_of_ok outcome]
  decide +kernel

/-- A host whose objects set the clock back at frames, write over what the first module has
published, leave a mark in the store, and let someone listen. -/
def poltergeist : Host metronomeWords where
  callback _ _ := pure ()
  handler := nofun
  verb := nofun
  ticker _ _ _ := do
    modify fun world : World metronomeWords => { world with frame := 0 }
    Effect.updateStore 0 fun store =>
      (store.set (.text "wall-om-objects") (.int 13)).set (.text "mark") (.bool true)
    let _ ← listen 0 "strike" () ⟨false, .null, .null⟩
    return ()
  hook := nofun

theorem poltergeist_calm (number : Int) (world : World metronomeWords) :
    Calm poltergeist number world := by
  intro middle handle ticker _
  let haunted : World metronomeWords :=
    after (Effect.updateStore 0 fun store =>
      (store.set (.text "wall-om-objects") (.int 13)).set (.text "mark") (.bool true))
        { middle with frame := 0 }
  have meddles : middle.Elsewhere haunted :=
    ({ Elsewhere.refl middle with } : middle.Elsewhere { middle with frame := 0 }).trans
      (.updateHub _ _ _)
  obtain ⟨id, final, ran, -⟩ := listen_buses haunted 0 "strike" () ⟨false, .null, .null⟩
  have listens := Elsewhere.listen haunted 0 "strike" () ⟨false, .null, .null⟩
  rw [after_of_ok ran] at listens
  exact ⟨final, run_bind_ok ran, meddles.trans listens⟩

/-- No handler fails or changes a registry here.  But the clock was set back, what the first
module has published is written over, a key that belongs to no module is set, and there are
listeners on the bus; and an object that two modules have registered is called twice. -/
theorem runFrame_haunted :
    (clockwork.Running ∧
      (∀ entry ∈ clockwork.registered, (clockwork.moduleOf entry.2).context = mainContext) ∧
      Calm poltergeist 5 clockwork ∧
      ∃ final, (runFrame poltergeist none).run clockwork = .ok 5 final ∧
        final.frame = 0 ∧
          (clockwork.moduleOf 0).registry.count = 1 ∧
            ((final.hub 0).store.items.get? (clockwork.countKey "wall")).map Value.print =
                some "13" ∧
              "mark" ∉ clockwork.registered.keys.map clockwork.countKey ∧
                ((clockwork.hub 0).store.items.get? "mark").isSome = false ∧
                  ((final.hub 0).store.items.get? "mark").isSome = true ∧
                    (clockwork.hub 0).bus.listeners.length = 0 ∧
                      (final.hub 0).bus.listeners.length = 2) ∧
      entwined.Running ∧
        (∀ entry ∈ entwined.registered, (entwined.moduleOf entry.2).context = mainContext) ∧
        Calm metronome 5 entwined ∧
        ∃ final, (runFrame metronome none).run entwined = .ok 5 final ∧
          final.heard.drop entwined.heard.length = [(2, 5), (0, 5), (0, 5)] := by
  refine ⟨⟨clockwork_running, by decide +kernel, poltergeist_calm 5 clockwork, ?_⟩,
    runFrame_entwined⟩
  have returns :
      returnsWith (runFrame poltergeist none) clockwork (fun number _ => number == 5) = true := by
    decide +kernel
  obtain ⟨number, final, outcome, isFive⟩ := exists_ok_of_returnsWith returns
  obtain rfl : number = 5 := beq_iff_eq.mp isFive
  refine ⟨final, outcome, ?_⟩
  rw [← after_of_ok outcome]
  decide +kernel

end World

end CommandHost
