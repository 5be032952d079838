import CommandHost.Proofs.Object.Creation

/-!
# Creations and removals as sequences of moves

A creation enters objects, hangs them below one another, discards some of them again and
lets hooks act; a removal discards.  Each of these is a `Move`, and whatever a creation or
a removal does, whether it fails or not, is one move after the other.  So a property that
every move preserves is preserved by creations and removals, and the induction over the
depth of a descriptor and over its children is made only once.
-/

namespace CommandHost

variable {V : Vocabulary}

namespace World

variable {host : Host V} {place : Nat} {world : World V}

/-! ## What is left behind -/

theorem after_bind_pure {α β : Type} (act : Effect V α) (value : β) (world : World V) :
    after (act >>= fun _ => pure value) world = after act world := by
  cases outcome : act.run world with
  | ok result final =>
      rw [after_of_ok outcome]
      exact after_bind_ok outcome
  | error fault final =>
      rw [after_of_error outcome]
      exact after_of_error (run_bind_error outcome)

/-! ## Moves -/

/-- An object that is there and not disposed. -/
def InUse (world : World V) (handle : Nat) : Prop :=
  handle < world.objects.size ∧ (world.object handle).disposed = false

/-- A change of neither objects nor modules nor contexts. -/
structure SameStock (world later : World V) : Prop where
  objects_eq : later.objects = world.objects
  modules_eq : later.modules = world.modules
  contexts_eq : later.contexts = world.contexts

/-- A change that leaves the listeners of a bus alone as well. -/
structure Apart (world later : World V) : Prop extends SameStock world later where
  hubs_size_eq : later.hubs.size = world.hubs.size
  bus_eq : ∀ hub, (later.hub hub).bus = (world.hub hub).bus
  listenerIds_eq : later.listenerIds = world.listenerIds

/-- What may be done besides creating and removing: an object that is in use listens, or
something changes that has to do with neither objects nor listeners. -/
inductive Act (world : World V) : World V → Prop where
  | listened (handle : Nat) (event : String) (callback : V.Callback) (once : Bool)
      (inUse : world.InUse handle) :
      Act world (after (listenAs handle event callback once) world)
  | apart {later : World V} (apart : world.Apart later) : Act world later

/-- What happens to the objects of a module, step by step.  A new object acts on the bus
of the module, and objects are discarded only while the trees are in order. -/
inductive Move (place : Nat) (world : World V) : World V → Prop where
  | entered (known : place < world.modules.size) (kind : ObjectClass V)
      (descriptor : Entries) (verbs : Verbs V.Verb) :
      Move place world
        (after (enter place kind descriptor verbs (some (world.hubOf place))) world)
  | appended {parent child : Nat} (parentThere : parent < world.objects.size)
      (childThere : child < world.objects.size) :
      Move place world (after (append parent child) world)
  | discarded {handle : Nat} (known : place < world.modules.size)
      (sound : (world.scene place).Sound 0) (there : handle < world.objects.size) :
      Move place world (after (discard place handle) world)
  | acted {later : World V} (act : world.Act later) : Move place world later

/-- One move after the other. -/
abbrev Moves (place : Nat) : World V → World V → Prop := Relation.ReflTransGen (Move place)

end World

/-- The hooks of a host leave the objects and the registry of a module alone, and the
hooks of objects that are in use do nothing to buses but let objects listen that are in
use. -/
structure Host.ListensOnly (host : Host V) (place : Nat) : Prop where
  quiet : host.Quiet place
  acts : ∀ (hook : V.Hook) (handle : Nat) (world : World V), world.InUse handle →
    Relation.ReflTransGen World.Act world (World.after (host.hook hook handle) world)

namespace World

variable {host : Host V} {place : Nat} {world : World V}

namespace Apart

theorem refl (world : World V) : world.Apart world :=
  ⟨⟨rfl, rfl, rfl⟩, rfl, fun _ => rfl, rfl⟩

theorem log (world : World V) (record : LogRecord) :
    world.Apart (after (Effect.log record) world) :=
  ⟨⟨rfl, rfl, rfl⟩, rfl, fun _ => rfl, rfl⟩

theorem log_if (world : World V) (asked : Bool) (record : LogRecord) :
    world.Apart (after (if asked then Effect.log record else pure ()) world) := by
  cases asked
  · exact refl world
  · exact log world record

end Apart

namespace SameStock

variable {later final : World V}

theorem refl (world : World V) : world.SameStock world := ⟨rfl, rfl, rfl⟩

theorem trans (first : world.SameStock later) (second : later.SameStock final) :
    world.SameStock final :=
  ⟨second.objects_eq.trans first.objects_eq, second.modules_eq.trans first.modules_eq,
    second.contexts_eq.trans first.contexts_eq⟩

theorem object_eq (same : world.SameStock later) (handle : Nat) :
    later.object handle = world.object handle := by
  rw [object, same.objects_eq, object]

theorem scene_eq (same : world.SameStock later) (place : Nat) :
    later.scene place = world.scene place := by
  simp only [scene, object, moduleOf, same.objects_eq, same.modules_eq]

theorem hubOf_eq (same : world.SameStock later) (place : Nat) :
    later.hubOf place = world.hubOf place := by
  simp only [hubOf, context, moduleOf, same.modules_eq, same.contexts_eq]

end SameStock

/-! ## Steps that keep a property -/

/-- A step keeps a property of worlds, whether it succeeds or fails. -/
def Keeps {α : Type} (holds : World V → Prop) (act : Effect V α) : Prop :=
  ∀ world, holds world → holds (after act world)

namespace Keeps

variable {α β : Type} {holds : World V → Prop}

theorem pure (value : α) : Keeps holds (pure value : Effect V α) :=
  fun _ held => held

theorem throw (fault : Fault) : Keeps holds (throw fault : Effect V α) :=
  fun _ held => held

theorem bind {act : Effect V α} {next : α → Effect V β} (first : Keeps holds act)
    (rest : ∀ value, Keeps holds (next value)) : Keeps holds (act >>= next) := by
  intro world held
  have middleHeld := first world held
  cases outcome : act.run world with
  | ok value middle =>
      rw [after_of_ok outcome] at middleHeld
      rw [after_bind_ok outcome]
      exact rest value middle middleHeld
  | error fault final =>
      rw [after_of_error outcome] at middleHeld
      rw [after_of_error (run_bind_error outcome)]
      exact middleHeld

theorem ofUse (result : Except IllegalUse α) :
    Keeps holds (Effect.ofUse result : Effect V α) := by
  cases result with
  | ok value => exact pure value
  | error cause => exact throw (.illegal cause)

/-- A step that looks at the world first. -/
theorem look {next : World V → Effect V β}
    (keeps : ∀ world, holds world → holds (after (next world) world)) :
    Keeps holds (get >>= next) := by
  intro world held
  rw [after_bind_ok (EStateM.run_get world)]
  exact keeps world held

theorem forM {items : List α} {act : α → Effect V Unit}
    (keeps : ∀ item, Keeps holds (act item)) : Keeps holds (items.forM act) := by
  induction items with
  | nil => exact pure ()
  | cons item rest inductionHypothesis => exact bind (keeps item) fun _ => inductionHypothesis

theorem ite {condition : Prop} [Decidable condition] {first second : Effect V α}
    (keepsFirst : Keeps holds first) (keepsSecond : Keeps holds second) :
    Keeps holds (if condition then first else second) := by
  by_cases isTrue : condition
  · rw [if_pos isTrue]
    exact keepsFirst
  · rw [if_neg isTrue]
    exact keepsSecond

end Keeps

namespace SameStock

variable {origin : World V}

theorem log (record : LogRecord) : Keeps origin.SameStock (Effect.log record) :=
  fun _ same => same.trans ⟨rfl, rfl, rfl⟩

theorem updateBus (hub : Nat) (change : Bus V.Callback → Bus V.Callback) :
    Keeps origin.SameStock (Effect.updateBus hub change) :=
  fun _ same => same.trans ⟨rfl, rfl, rfl⟩

theorem listen (hub : Nat) (event : String) (callback : V.Callback)
    (options : ListenerOptions) :
    Keeps origin.SameStock (World.listen hub event callback options) := by
  apply Keeps.look
  intro middle same
  have counted : origin.SameStock { middle with listenerIds := middle.listenerIds + 1 } :=
    same.trans ⟨rfl, rfl, rfl⟩
  have counting : (set { middle with listenerIds := middle.listenerIds + 1 } :
      Effect V PUnit).run middle =
        .ok .unit { middle with listenerIds := middle.listenerIds + 1 } := rfl
  rw [after_bind_ok counting]
  apply Keeps.bind (updateBus hub _) _ _ counted
  intro _
  exact .ite (.bind (log _) fun _ => .pure _) (.pure _)

theorem release (hub : Nat) (id : String) :
    Keeps origin.SameStock (World.release hub id) := by
  apply Keeps.look
  intro middle same
  cases known : (middle.hub hub).bus.index.get? id with
  | none =>
      simp only [known]
      exact same
  | some event =>
      simp only [known]
      exact Keeps.bind (updateBus hub _) (fun _ => .ite (log _) (.pure _)) middle same

theorem releaseOwner (hub : Nat) (owner : Value) :
    Keeps origin.SameStock (World.releaseOwner hub owner) :=
  .look fun middle same => Keeps.forM (release hub) middle same

end SameStock

theorem listenAs_sameStock (world : World V) (handle : Nat) (event : String)
    (callback : V.Callback) (once : Bool) :
    world.SameStock (after (listenAs handle event callback once) world) := by
  unfold listenAs
  rw [after_bind_ok (EStateM.run_get world)]
  cases isHub : (world.object handle).hub with
  | none =>
      simp only [isHub]
      exact Keeps.bind (SameStock.log _) (fun _ => .pure _) world (.refl world)
  | some hub =>
      simp only [isHub]
      exact Keeps.bind (SameStock.listen hub event callback _) (fun _ => .pure _) world
        (.refl world)

theorem Act.sameStock {later : World V} (act : world.Act later) : world.SameStock later := by
  cases act with
  | listened handle event callback once _ =>
      exact listenAs_sameStock world handle event callback once
  | apart apart => exact apart.toSameStock

namespace Moves

/-- Moves of one step followed by those of the next one.  There is no next one if the
first fails. -/
theorem bind {α β : Type} {act : Effect V α} {next : α → Effect V β}
    (first : Moves place world (after act world))
    (rest : ∀ value middle, act.run world = .ok value middle →
      Moves place middle (after (next value) middle)) :
    Moves place world (after (act >>= next) world) := by
  cases outcome : act.run world with
  | ok value middle =>
      rw [after_of_ok outcome] at first
      rw [after_bind_ok outcome]
      exact first.trans (rest value middle outcome)
  | error fault final =>
      rw [after_of_error outcome] at first
      rw [after_of_error (run_bind_error outcome)]
      exact first

theorem apart {later : World V} (apart : world.Apart later) : Moves place world later :=
  .single (.acted (.apart apart))

end Moves

/-! ## The parts of a creation -/

theorem hangChildren_singleton (host : Host V) (place depth handle : Nat)
    (child : Value) :
    hangChildren host place depth handle [child] =
      createWithin host place depth child >>= append handle := by
  simp [hangChildren]

theorem hangChildren_cons (host : Host V) (place depth handle : Nat) (child : Value)
    (rest : List Value) :
    hangChildren host place depth handle (child :: rest) =
      hangChildren host place depth handle [child] >>= fun _ =>
        hangChildren host place depth handle rest := by
  simp [hangChildren]

/-- Creates the children that a descriptor lists, and hangs them below an object. -/
def hangListed (host : Host V) (place depth handle : Nat) (descriptor : Entries) :
    Effect V Unit := do
  let children ← Effect.ofUse (childrenOf descriptor)
  hangChildren host place depth handle children

theorem hangOrDiscard_eq (host : Host V) (place depth handle : Nat) (descriptor : Entries) :
    hangOrDiscard host place depth handle descriptor =
      tryCatch (hangListed host place depth handle descriptor)
        (fun fault => discard place handle >>= fun _ => throw fault) :=
  rfl

theorem finish_moves (listensOnly : host.ListensOnly place) {handle : Nat}
    (inUse : world.InUse handle) :
    Moves place world (after (finish host place handle) world) := by
  unfold finish
  rw [after_bind_ok (EStateM.run_get world)]
  cases (world.object handle).kind.hook with
  | none => exact .apart (.log_if world _ _)
  | some hook =>
      apply Moves.bind
      · have acts := listensOnly.acts hook handle world inUse
        exact Relation.ReflTransGen.mono (fun _ _ act => .acted act) _ _ acts
      · intro _ middle _
        rw [after_bind_ok (EStateM.run_get middle)]
        exact .apart (.log_if middle _ _)

section Children

variable {before : Scene} {built : List Nat} {depth : Nat}

theorem known_of_growing {middle : World V} {more : List Nat}
    (known : place < world.modules.size)
    (growing : Scene.Growing 0 before (world.scene place) built)
    (later : Scene.Growing 0 before (middle.scene place) more) :
    place < middle.modules.size :=
  known_of_known_eq known (later.grown.known_eq.trans growing.grown.known_eq.symm)

variable (listensOnly : host.ListensOnly place)
  (moves : ∀ (data : Value) (world : World V), (world.scene place).Sound 0 →
    place < world.modules.size →
      Moves place world (after (createWithin host place depth data) world))

include listensOnly moves

theorem hangChildren_moves (children : List Value) {world : World V}
    (known : place < world.modules.size)
    (growing : Scene.Growing 0 before (world.scene place) built)
    (hangs : (world.scene place).HangsBelow before.count built) :
    Moves place world
      (after (hangChildren host place depth before.count children) world) := by
  -- On the children.  What was built so far grows with each of them, and the trees are in
  -- order again before the next one.
  induction children generalizing world built with
  | nil => exact .refl
  | cons child rest inductionHypothesis =>
      have creates := createWithin_created listensOnly.quiet 0 depth
      rw [hangChildren_cons]
      apply Moves.bind
      · rw [hangChildren_singleton]
        apply Moves.bind (moves child world growing.sound known)
        intro handle middle ran
        have created := creates child world growing.sound known (Nat.zero_le _)
        rw [ran] at created
        obtain ⟨isTop, more, childGrowing, -⟩ := created
        subst isTop
        have topThere : before.count < middle.objects.size :=
          growing.top_lt.trans childGrowing.top_lt
        exact .single (.appended topThere childGrowing.top_lt)
      · intro _ middle ran
        have created := hangChildren_created (Nat.zero_le _) creates [child] known growing hangs
        rw [ran] at created
        obtain ⟨more, middleGrowing, middleHangs⟩ := created
        exact inductionHypothesis (known_of_growing known growing middleGrowing)
          middleGrowing middleHangs

omit listensOnly moves in
theorem discard_throw_moves {world : World V} (known : place < world.modules.size)
    (growing : Scene.Growing 0 before (world.scene place) built) (fault : Fault) :
    Moves place world
      (after (do discard place before.count; throw fault : Effect V Unit) world) := by
  apply Moves.bind
  · exact .single (.discarded known growing.sound growing.top_lt)
  · intro _ middle _
    exact .refl

theorem hangOrDiscard_moves (descriptor : Entries) {world : World V}
    (known : place < world.modules.size)
    (growing : Scene.Growing 0 before (world.scene place) built)
    (hangs : (world.scene place).HangsBelow before.count built) :
    Moves place world
      (after (hangOrDiscard host place depth before.count descriptor) world) := by
  unfold hangOrDiscard
  rw [after, run_tryCatch]
  cases listed : childrenOf descriptor with
  | error cause =>
      -- The children are only listed once the object is there.
      rw [run_bind_error (ofUse_error_run cause world)]
      exact discard_throw_moves known growing (.illegal cause)
  | ok children =>
      rw [run_bind_ok (ofUse_ok_run children world)]
      have moved := hangChildren_moves listensOnly moves children known growing hangs
      have created := hangChildren_created (Nat.zero_le _)
        (createWithin_created listensOnly.quiet 0 depth) children known growing hangs
      rw [after] at moved
      cases outcome :
          (hangChildren host place depth before.count children).run world with
      | ok value final =>
          rw [outcome] at moved
          exact moved
      | error fault middle =>
          rw [outcome] at moved created
          obtain ⟨more, middleGrowing, -⟩ := created
          have middleKnown := known_of_growing known growing middleGrowing
          exact moved.trans (discard_throw_moves middleKnown middleGrowing fault)

theorem createOf_moves (kind : ObjectClass V) (descriptor : Entries)
    {world : World V} (sound : (world.scene place).Sound 0)
    (known : place < world.modules.size) :
    Moves place world
      (after (createOf host place depth kind descriptor
        (world.context (world.moduleOf place).context)) world) := by
  let context := world.context (world.moduleOf place).context
  rw [createOf_eq]
  rcases enter_cases known kind descriptor context.verbs (some context.hub) with
    ⟨cause, refused⟩ | ⟨node, entered, ⟨alone, inUse⟩, ranEnter, enteredScene⟩
  · rw [after_of_error (run_bind_error refused)]
  have enteredKnown : place < entered.modules.size :=
    known_of_known_eq known (by rw [enteredScene]; rfl)
  have growing :
      Scene.Growing 0 (world.scene place) (entered.scene place) [world.objects.size] := by
    rw [enteredScene]
    exact .enter sound alone inUse fun _ => scene_inUse_of_le
  have hangs :
      (entered.scene place).HangsBelow world.objects.size [world.objects.size] := by
    intro handle member
    rw [List.mem_singleton.mp member]
    exact .inr .refl
  have hung := hangOrDiscard_moves listensOnly moves descriptor enteredKnown growing hangs
  have created := hangOrDiscard_created (Nat.zero_le _)
    (createWithin_created listensOnly.quiet 0 depth) descriptor enteredKnown growing hangs
  have top_eq : (world.scene place).count = world.objects.size := rfl
  rw [top_eq] at hung created
  apply Moves.bind
  · exact .single (.entered known kind descriptor context.verbs)
  · intro handle middle ran
    rw [ranEnter] at ran
    cases ran
    apply Moves.bind hung
    intro _ middle ranHang
    apply Moves.bind _ fun _ _ _ => .refl
    rw [ranHang] at created
    rcases created with ⟨final, more, sameRun, finalGrowing, -⟩ | ⟨fault, final, different, -⟩
    · cases sameRun
      exact finish_moves listensOnly ⟨finalGrowing.top_lt, finalGrowing.top_inUse⟩
    · cases different

end Children

/-! ## Creations and removals -/

theorem createWithin_moves (listensOnly : host.ListensOnly place) (depth : Nat)
    (data : Value) (world : World V) (sound : (world.scene place).Sound 0)
    (known : place < world.modules.size) :
    Moves place world (after (createWithin host place depth data) world) := by
  induction depth generalizing data world with
  | zero =>
      have refused : after (createWithin host place 0 data) world = world := rfl
      rw [refused]
  | succ depth inductionHypothesis =>
      rw [createWithin_succ]
      cases data.toEntries with
      | error cause =>
          rw [after_of_error (run_bind_error (ofUse_error_run cause world))]
      | ok given =>
          rw [after_bind_ok (ofUse_ok_run given world),
            after_bind_ok (EStateM.run_get world)]
          cases resolve (world.moduleOf place) given with
          | error fault => exact .refl
          | ok resolved =>
              rw [after_bind_ok (ofExcept_ok_run resolved world)]
              exact createOf_moves listensOnly inductionHypothesis resolved.1 resolved.2
                sound known

theorem create_moves (listensOnly : host.ListensOnly place) (data : Value)
    (sound : (world.scene place).Sound 0) (known : place < world.modules.size) :
    Moves place world (after (create host place data) world) :=
  createWithin_moves listensOnly _ data world sound known

theorem remove_moves (id : String) (sound : (world.scene place).Sound 0)
    (known : place < world.modules.size) :
    Moves place world (after (remove place id : Effect V Unit) world) := by
  unfold remove
  rw [after_bind_ok (EStateM.run_get world)]
  cases found : (world.moduleOf place).registry.get? id with
  | none =>
      simp only [found]
      exact .refl
  | some handle =>
      have member : (id, handle) ∈ (world.scene place).registry.objects :=
        (Table.mem_iff_get? sound.keyed.keys_nodup).mpr found
      simp only [found]
      apply Moves.bind
      · exact .single (.discarded known sound (sound.keyed.lt_count _ member))
      · intro _ middle _
        exact .apart (.log_if middle _ _)

end World

end CommandHost
