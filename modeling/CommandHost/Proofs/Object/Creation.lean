import CommandHost.Proofs.Object.Growth

/-!
# What a creation does, whether it succeeds or fails

`Created` says what is true of the result of a creation.  A successful one gives the
first object it built, and all others that are still in use hang below it.  A failed one
has disposed everything it built, unless it was a hook that failed: the object whose
hook failed is not discarded by anyone.  In both cases the trees and the registry are in
order, and the scene has grown by the built objects.

The proof is by induction on the depth to which the creation may go, and for the
children of an object on their list.
-/

namespace CommandHost

variable {V : Vocabulary}

/-- Hooks leave the objects that are there and the registry of a module alone, whether
they fail or not. -/
def Host.Quiet (host : Host V) (place : Nat) : Prop :=
  ∀ (hook : V.Hook) (handle : Nat) (world : World V),
    (world.scene place).Unmoved ((World.after (host.hook hook handle) world).scene place)

/-- A hook of the host fails for a cause. -/
def Host.RaisesInHook (host : Host V) (fault : Fault) : Prop :=
  ∃ hook handle earlier later, (host.hook hook handle).run earlier = .error fault later

namespace World

variable {host : Host V} {base place : Nat} {before : Scene} {built : List Nat}

theorem run_bind_error {α β : Type} {act : Effect V α} {next : α → Effect V β}
    {world after : World V} {fault : Fault} (ran : act.run world = .error fault after) :
    (act >>= next).run world = .error fault after := by
  rw [EStateM.run_bind, ran]

theorem unmoved_of_scene_eq {world final : World V}
    (same : final.scene place = world.scene place) :
    (world.scene place).Unmoved (final.scene place) := by
  rw [same]
  exact ⟨Nat.le_refl _, rfl, rfl, fun _ _ => rfl, fun _ absent =>
    ⟨scene_isAlone_of_le absent, scene_inUse_of_le absent⟩⟩

theorem known_of_known_eq {world final : World V} (known : place < world.modules.size)
    (known_eq : (final.scene place).known = (world.scene place).known) :
    place < final.modules.size :=
  of_decide_eq_true (known_eq.trans (decide_eq_true known))

theorem ofUse_ok_run {α : Type} (value : α) (world : World V) :
    (Effect.ofUse (.ok value) : Effect V α).run world = .ok value world :=
  rfl

theorem ofUse_error_run {α : Type} (cause : IllegalUse) (world : World V) :
    (Effect.ofUse (.error cause) : Effect V α).run world = .error (.illegal cause) world :=
  rfl

theorem ofExcept_ok_run {α : Type} (value : α) (world : World V) :
    (MonadExcept.ofExcept (.ok value : Except Fault α) : Effect V α).run world =
      .ok value world :=
  rfl

/-! ## Results -/

/-- What is true of the result of a creation that began with a scene. -/
def Created (host : Host V) (base place : Nat) (before : Scene) :
    EStateM.Result Fault (World V) Nat → Prop
  | .ok handle final =>
    handle = before.count ∧
      ∃ built, Scene.Growing base before (final.scene place) built ∧
        (final.scene place).HangsBelow before.count built
  | .error fault final =>
    (final.scene place).Sound base ∧
      ∃ built, before.Grown (final.scene place) built ∧
        (host.RaisesInHook fault ∨
          ∀ handle ∈ built, ((final.scene place).node handle).disposed = true)

/-- What is true after the children of the first object were created. -/
def ChildrenCreated (host : Host V) (base place : Nat) (before : Scene) :
    EStateM.Result Fault (World V) Unit → Prop
  | .ok _ final =>
    ∃ built, Scene.Growing base before (final.scene place) built ∧
      (final.scene place).HangsBelow before.count built
  | .error fault final =>
    ∃ built, Scene.Growing base before (final.scene place) built ∧
      (host.RaisesInHook fault ∨ (final.scene place).HangsBelow before.count built)

/-- A creation that fails at once has built nothing. -/
theorem created_of_refused {world : World V} (sound : (world.scene place).Sound base)
    (fault : Fault) :
    Created host base place (world.scene place) (.error fault world) := by
  have unmoved := @unmoved_of_scene_eq V place world world rfl
  exact ⟨sound, [], unmoved.grown sound.keyed, .inr fun _ member =>
    absurd member List.not_mem_nil⟩

/-! ## The parts of a creation -/

/-- Creates the children of an object and hangs them below it. -/
def hangChildren (host : Host V) (place depth handle : Nat) (children : List Value) :
    Effect V Unit :=
  children.forM fun child => do append handle (← createWithin host place depth child)

/-- Creates what a descriptor says hangs below an object, or discards the object. -/
def hangOrDiscard (host : Host V) (place depth handle : Nat) (descriptor : Entries) :
    Effect V Unit :=
  tryCatch
    (do
      let children ← Effect.ofUse (childrenOf descriptor)
      hangChildren host place depth handle children)
    fun fault => do
      discard place handle
      throw fault

/-- Builds an object and registers it. -/
def enter (place : Nat) (kind : ObjectClass V) (descriptor : Entries)
    (verbs : Verbs V.Verb) (hub : Option Nat) : Effect V Nat := do
  let handle ← construct kind descriptor verbs hub
  addObject place handle
  return handle

/-- Creates an object of a class, and what its descriptor says hangs below it. -/
def createOf (host : Host V) (place depth : Nat) (kind : ObjectClass V)
    (descriptor : Entries) (context : Context V) : Effect V Nat := do
  let handle ← construct kind descriptor context.verbs (some context.hub)
  addObject place handle
  hangOrDiscard host place depth handle descriptor
  finish host place handle
  return handle

theorem createWithin_succ (host : Host V) (place depth : Nat) (data : Value) :
    createWithin host place (depth + 1) data = (do
      let given ← Effect.ofUse data.toEntries
      let world ← get
      let (kind, descriptor) ← MonadExcept.ofExcept (resolve (world.moduleOf place) given)
      createOf host place depth kind descriptor
        (world.context (world.moduleOf place).context)) :=
  rfl

theorem createOf_eq (host : Host V) (place depth : Nat) (kind : ObjectClass V)
    (descriptor : Entries) (context : Context V) :
    createOf host place depth kind descriptor context = (do
      let handle ← enter place kind descriptor context.verbs (some context.hub)
      hangOrDiscard host place depth handle descriptor
      finish host place handle
      return handle) := by
  simp only [createOf, enter, bind_assoc, pure_bind]

/-- An object that cannot be built is not registered either. -/
theorem enter_cases {world : World V} (known : place < world.modules.size)
    (kind : ObjectClass V) (descriptor : Entries) (verbs : Verbs V.Verb) (hub : Option Nat) :
    (∃ cause,
      (enter place kind descriptor verbs hub).run world = .error (.illegal cause) world) ∨
    ∃ node final,
      (node.IsAlone ∧ node.disposed = false) ∧
        (enter place kind descriptor verbs hub).run world = .ok world.objects.size final ∧
          final.scene place = (world.scene place).enter node := by
  rcases construct_cases kind descriptor verbs hub world with
    ⟨cause, refused⟩ | ⟨object, ids, built, ranConstruct⟩
  · exact .inl ⟨cause, run_bind_error refused⟩
  · have constructedScene := push_scene place object ids world
    have constructedKnown :
        place < ({ world with
          objects := world.objects.push object, objectIds := ids } : World V).modules.size :=
      known
    obtain ⟨final, ranAdd, finalScene⟩ := addObject_scene constructedKnown world.objects.size
    rw [constructedScene] at finalScene
    exact .inr ⟨object.node, final, isAlone_of_ofDescriptor built,
      (run_bind_ok ranConstruct).trans (run_bind_ok ranAdd), finalScene⟩

/-- Logs that an object was created, if that is asked for. -/
def announce (place handle : Nat) : Effect V Unit := do
  let world ← get
  let found := world.moduleOf place
  if (world.context found.context).config.logCreateObject then
    Effect.log (.plain .info
      ("Module " ++ found.name ++ " created object " ++ (world.object handle).id))

/-- At most the journal changes. -/
theorem announce_run (place handle : Nat) (world : World V) :
    ∃ journal, (announce place handle).run world =
      .ok () { world with journal := journal } := by
  unfold announce
  rw [run_bind_ok (EStateM.run_get world)]
  simp only
  split
  · exact ⟨_, rfl⟩
  · exact ⟨world.journal, rfl⟩

theorem finish_run_of_none {handle : Nat} {world : World V}
    (noHook : (world.object handle).kind.hook = none) :
    (finish host place handle).run world = (announce place handle).run world := by
  unfold finish
  rw [run_bind_ok (EStateM.run_get world), noHook]
  rfl

theorem finish_run_of_some {handle : Nat} {world : World V} {hook : V.Hook}
    (hooked : (world.object handle).kind.hook = some hook) :
    (finish host place handle).run world =
      (host.hook hook handle >>= fun _ => announce place handle).run world := by
  unfold finish
  rw [run_bind_ok (EStateM.run_get world), hooked]
  rfl

/-- The last step runs a hook and writes to the log. -/
theorem finish_cases (quiet : host.Quiet place) (handle : Nat) (world : World V) :
    (∃ final,
      (finish host place handle).run world = .ok () final ∧
        (world.scene place).Unmoved (final.scene place)) ∨
    ∃ fault final,
      (finish host place handle).run world = .error fault final ∧
        (world.scene place).Unmoved (final.scene place) ∧ host.RaisesInHook fault := by
  cases hooked : (world.object handle).kind.hook with
  | none =>
      obtain ⟨journal, ran⟩ := announce_run place handle world
      rw [finish_run_of_none hooked, ran]
      exact .inl ⟨_, rfl, unmoved_of_scene_eq rfl⟩
  | some hook =>
      have unmoved := quiet hook handle world
      rw [finish_run_of_some hooked]
      cases outcome : (host.hook hook handle).run world with
      | ok value middle =>
          rw [after, outcome] at unmoved
          obtain ⟨journal, ran⟩ := announce_run place handle middle
          exact .inl ⟨_, (run_bind_ok outcome).trans ran, unmoved⟩
      | error fault final =>
          rw [after, outcome] at unmoved
          exact .inr ⟨fault, final, run_bind_error outcome, unmoved,
            hook, handle, world, final, outcome⟩

/-! ## The children of an object -/

section Children

variable {depth : Nat} (new : base ≤ before.count)
  (creates : ∀ (data : Value) (world : World V), (world.scene place).Sound base →
    place < world.modules.size → base ≤ world.objects.size →
      Created host base place (world.scene place)
        ((createWithin host place depth data).run world))

include new creates

theorem hangChildren_created (children : List Value) {world : World V}
    (known : place < world.modules.size)
    (growing : Scene.Growing base before (world.scene place) built)
    (hangs : (world.scene place).HangsBelow before.count built) :
    ChildrenCreated host base place before
      ((hangChildren host place depth before.count children).run world) := by
  induction children generalizing world built with
  | nil => exact ⟨built, growing, hangs⟩
  | cons child rest inductionHypothesis =>
      have worldNew : base ≤ world.objects.size := new.trans growing.top_lt.le
      have created := creates child world growing.sound known worldNew
      rw [hangChildren, List.forM_eq_forM, List.forM_cons]
      cases outcome : (createWithin host place depth child).run world with
      | ok handle middle =>
          rw [outcome] at created
          obtain ⟨isTop, more, childGrowing, childHangs⟩ := created
          subst isTop
          have topThere : before.count < middle.objects.size :=
            growing.top_lt.trans childGrowing.top_lt
          have childThere : (world.scene place).count < middle.objects.size :=
            childGrowing.top_lt
          obtain ⟨appended, ranAppend, appendedScene⟩ :=
            append_scene place topThere childThere
          have nextGrowing := growing.append childGrowing new
          have nextHangs := growing.append_hangs childGrowing hangs childHangs
          have appendedKnown : place < appended.modules.size :=
            known_of_known_eq known
              ((congrArg Scene.known appendedScene).trans childGrowing.grown.known_eq)
          rw [← appendedScene] at nextGrowing nextHangs
          have step :
              (do append before.count (← createWithin host place depth child) :
                Effect V Unit).run world = .ok () appended :=
            (run_bind_ok outcome).trans ranAppend
          rw [run_bind_ok step]
          exact inductionHypothesis appendedKnown nextGrowing nextHangs
      | error fault middle =>
          rw [outcome] at created
          obtain ⟨sound, more, grown, disposed⟩ := created
          have step :
              (do append before.count (← createWithin host place depth child) :
                Effect V Unit).run world = .error fault middle :=
            run_bind_error outcome
          rw [run_bind_error step]
          -- The child that failed hangs nowhere: what it built is disposed already, or
          -- stays behind because a hook failed.
          refine ⟨built ++ more, growing.further sound grown, ?_⟩
          rcases disposed with raised | disposed
          · exact .inl raised
          · right
            exact growing.further_hangs grown hangs fun handle member =>
              .inl (disposed handle member)

/-- When the children cannot all be created, the object is discarded with those that
were, and the creation fails for the same cause. -/
theorem hangOrDiscard_created (descriptor : Entries) {world : World V}
    (known : place < world.modules.size)
    (growing : Scene.Growing base before (world.scene place) built)
    (hangs : (world.scene place).HangsBelow before.count built) :
    (∃ final more,
      (hangOrDiscard host place depth before.count descriptor).run world = .ok () final ∧
        Scene.Growing base before (final.scene place) more ∧
          (final.scene place).HangsBelow before.count more) ∨
    ∃ fault final,
      (hangOrDiscard host place depth before.count descriptor).run world =
          .error fault final ∧
        Created host base place before (.error fault final) := by
  have tried : ChildrenCreated host base place before
      ((do
        let children ← Effect.ofUse (childrenOf descriptor)
        hangChildren host place depth before.count children : Effect V Unit).run
          world) := by
    cases listed : childrenOf descriptor with
    | error cause =>
        rw [run_bind_error (ofUse_error_run cause world)]
        exact ⟨built, growing, .inr hangs⟩
    | ok children =>
        rw [run_bind_ok (ofUse_ok_run children world)]
        exact hangChildren_created new creates children known growing hangs
  unfold hangOrDiscard
  rw [run_tryCatch]
  cases outcome : (do
      let children ← Effect.ofUse (childrenOf descriptor)
      hangChildren host place depth before.count children : Effect V Unit).run world with
  | ok value final =>
      rw [outcome] at tried
      obtain ⟨more, finalGrowing, finalHangs⟩ := tried
      exact .inl ⟨final, more, rfl, finalGrowing, finalHangs⟩
  | error fault middle =>
      rw [outcome] at tried
      obtain ⟨more, middleGrowing, middleHangs⟩ := tried
      have middleKnown : place < middle.modules.size := by
        have worldKnown : before.known = true :=
          growing.grown.known_eq.symm.trans (decide_eq_true known)
        exact of_decide_eq_true (middleGrowing.grown.known_eq.trans worldKnown)
      obtain ⟨final, gone, ranDiscard, finalScene, isBelow⟩ :=
        discard_scene middleGrowing.sound.forest middleGrowing.sound.keyed middleKnown new
          middleGrowing.top_lt
      obtain ⟨sound, grown⟩ := middleGrowing.discard new isBelow
      refine .inr ⟨fault, final, ?_, ?_⟩
      · exact run_bind_ok ranDiscard
      · rw [← finalScene] at sound grown
        refine ⟨sound, more, grown, middleHangs.imp_right fun hangs => ?_⟩
        rw [finalScene]
        exact Scene.Growing.discard_disposed hangs isBelow

omit new

theorem createOf_created (quiet : host.Quiet place) (kind : ObjectClass V)
    (descriptor : Entries) (context : Context V) {world : World V}
    (sound : (world.scene place).Sound base) (known : place < world.modules.size)
    (worldNew : base ≤ world.objects.size) :
    Created host base place (world.scene place)
      ((createOf host place depth kind descriptor context).run world) := by
  rw [createOf_eq]
  rcases enter_cases known kind descriptor context.verbs (some context.hub) with
    ⟨cause, refused⟩ | ⟨node, entered, ⟨alone, inUse⟩, ranEnter, enteredScene⟩
  · rw [run_bind_error refused]
    exact created_of_refused sound _
  have enteredKnown : place < entered.modules.size :=
    known_of_known_eq known (by rw [enteredScene]; rfl)
  have growing :
      Scene.Growing base (world.scene place) (entered.scene place) [world.objects.size] := by
    rw [enteredScene]
    exact .enter sound alone inUse fun _ => scene_inUse_of_le
  have hangs :
      (entered.scene place).HangsBelow world.objects.size [world.objects.size] := by
    intro handle member
    rw [List.mem_singleton.mp member]
    exact .inr .refl
  have hung :=
    hangOrDiscard_created worldNew creates descriptor enteredKnown growing hangs
  have top_eq : (world.scene place).count = world.objects.size := rfl
  rw [top_eq] at hung
  rw [run_bind_ok ranEnter]
  rcases hung with
    ⟨hung, built, ranHang, hungGrowing, hungHangs⟩ | ⟨fault, final, ranHang, failed⟩
  · rcases finish_cases quiet world.objects.size hung with
      ⟨final, ranFinish, unmoved⟩ | ⟨fault, final, ranFinish, unmoved, raised⟩
    · have grown := unmoved.grown hungGrowing.sound.keyed
      have finalGrowing := hungGrowing.further (unmoved.sound hungGrowing.sound) grown
      have finalHangs := hungGrowing.further_hangs grown hungHangs fun handle member =>
        absurd member List.not_mem_nil
      rw [run_bind_ok ranHang, run_bind_ok ranFinish]
      exact ⟨rfl, built ++ [], finalGrowing, finalHangs⟩
    · have grown := unmoved.grown hungGrowing.sound.keyed
      rw [run_bind_ok ranHang, run_bind_error ranFinish]
      exact ⟨unmoved.sound hungGrowing.sound, built ++ [], hungGrowing.grown.trans grown,
        .inl raised⟩
  · rw [run_bind_error ranHang]
    exact failed

end Children

/-! ## Creations -/

theorem createWithin_created (quiet : host.Quiet place) (base depth : Nat) (data : Value)
    (world : World V) (sound : (world.scene place).Sound base)
    (known : place < world.modules.size) (new : base ≤ world.objects.size) :
    Created host base place (world.scene place)
      ((createWithin host place depth data).run world) := by
  induction depth generalizing data world with
  | zero => exact created_of_refused sound _
  | succ depth inductionHypothesis =>
      rw [createWithin_succ]
      cases data.toEntries with
      | error cause => exact created_of_refused sound _
      | ok given =>
          rw [run_bind_ok (ofUse_ok_run given world),
            run_bind_ok (EStateM.run_get world)]
          cases resolve (world.moduleOf place) given with
          | error fault => exact created_of_refused sound _
          | ok resolved =>
              rw [run_bind_ok (ofExcept_ok_run resolved world)]
              exact createOf_created inductionHypothesis quiet resolved.1 resolved.2 _
                sound known new

theorem create_created (quiet : host.Quiet place) (base : Nat) (data : Value)
    {world : World V} (sound : (world.scene place).Sound base)
    (known : place < world.modules.size) (new : base ≤ world.objects.size) :
    Created host base place (world.scene place) ((create host place data).run world) :=
  createWithin_created quiet base _ data world sound known new

end World

end CommandHost
