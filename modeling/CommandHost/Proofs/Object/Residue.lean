import CommandHost.Proofs.Object.Rollback
import CommandHost.Proofs.Object.Tidy

/-!
# Nothing is left of a failed creation

When a creation fails, the objects it built are scattered: children that are finished
hang below objects that are not, some have been replaced by others of the same id, and
each level discards only what hangs below its own object.  `Scene.Covered` says that these
pieces are everything: each object built so far is disposed or hangs below the one that
comes first.  So whoever discards that one leaves nothing in use.

The induction is that of a creation, on the depth, and on the children of an object.
-/

namespace CommandHost

variable {V : Vocabulary}

/-! ## Pieces of an unfinished tree -/

namespace Scene

variable {before scene later : Scene} {base : Nat} {built more gone : List Nat}

/-- All objects from one on are disposed or hang below it. -/
def Covered (scene : Scene) (top : Nat) : Prop :=
  ∀ handle, top ≤ handle → handle < scene.count →
    (scene.node handle).disposed = true ∨ scene.Below top handle

/-- All objects from one on are disposed. -/
def Cleaned (scene : Scene) (start : Nat) : Prop :=
  ∀ handle, start ≤ handle → handle < scene.count → (scene.node handle).disposed = true

theorem covered_enter (before : Scene) (node : Node) :
    (before.enter node).Covered before.count := by
  intro handle isLater there
  have isTop : handle = before.count := Nat.le_antisymm (Nat.le_of_lt_succ there) isLater
  exact .inr (isTop ▸ .refl)

namespace Covered

/-- Later objects that are all disposed do not matter. -/
theorem further (covered : scene.Covered before.count)
    (growing : Growing base before scene built) (grown : scene.Grown later more)
    (cleaned : later.Cleaned scene.count) : later.Covered before.count := by
  intro handle isLater there
  by_cases older : handle < scene.count
  · rcases covered handle isLater older with disposed | reaches
    · left
      rw [grown.node_eq handle older]
      exact disposed
    · exact .inr (grown.below growing.sound.forest reaches)
  · exact .inl (cleaned handle (Nat.not_lt.mp older) there)

/-- A finished child brings all that was built for it. -/
theorem append (covered : scene.Covered before.count)
    (growing : Growing base before scene built) (childGrowing : Growing base scene later more)
    (childCovered : later.Covered scene.count) :
    (later.append before.count scene.count).Covered before.count := by
  intro handle isLater there
  rw [append_disposed]
  by_cases older : handle < scene.count
  · rcases covered handle isLater older with disposed | reaches
    · left
      rw [childGrowing.grown.node_eq handle older]
      exact disposed
    · have stays := childGrowing.grown.below growing.sound.forest reaches
      exact .inr (stays.append childGrowing.top_parent before.count)
  · rcases childCovered handle (Nat.not_lt.mp older) there with disposed | reaches
    · exact .inl disposed
    · have link := below_append later before.count scene.count
      exact .inr (link.trans (reaches.append childGrowing.top_parent before.count))

/-- When the first object is discarded nothing is left in use. -/
theorem discard {top : Nat} (covered : scene.Covered top)
    (isBelow : ∀ handle, handle ∈ gone ↔ scene.Below top handle) :
    (scene.discard gone).Cleaned top := by
  intro handle isLater there
  have disposed_eq := retireAll_disposed scene gone handle
  rcases covered handle isLater there with disposed | reaches
  · rw [disposed, Bool.or_true] at disposed_eq
    exact disposed_eq
  · rw [decide_eq_true ((isBelow handle).mpr reaches), Bool.true_or] at disposed_eq
    exact disposed_eq

end Covered

end Scene

/-! ## The parts of a creation -/

namespace World

variable {host : Host V} {base place : Nat} {origin : World V} {before : Scene}
  {built : List Nat}

/-- What a creation leaves behind: a successful one a single tree, a failed one nothing,
unless a hook failed. -/
def Residual (host : Host V) (base place : Nat) (origin : World V) (start : Nat) :
    EStateM.Result Fault (World V) Nat → Prop
  | .ok _ final => Tidy base origin final ∧ (final.scene place).Covered start
  | .error fault final =>
    Tidy base origin final ∧
      (host.RaisesInHook fault ∨ (final.scene place).Cleaned start)

/-- What the creation of children leaves behind, before anything is discarded. -/
def ChildrenResidual (host : Host V) (base place : Nat) (origin : World V) (start : Nat) :
    EStateM.Result Fault (World V) Unit → Prop
  | .ok _ final => Tidy base origin final ∧ (final.scene place).Covered start
  | .error fault final =>
    Tidy base origin final ∧
      (host.RaisesInHook fault ∨ (final.scene place).Covered start)

theorem ownActs_tidy {world later : World V} {top : Nat} (tidy : Tidy base origin world)
    (new : base ≤ top) (acts : Relation.ReflTransGen (OwnAct top) world later) :
    Tidy base origin later ∧ world.SameStock later := by
  induction acts with
  | refl => exact ⟨tidy, .refl world⟩
  | tail _ act inductionHypothesis =>
      refine ⟨inductionHypothesis.1.ownAct new act, inductionHypothesis.2.trans ?_⟩
      cases act with
      | listened handle event callback once _ _ =>
          exact listenAs_sameStock _ handle event callback once
      | apart apart => exact apart.toSameStock

theorem finish_tidy (discreet : host.Discreet place) {world : World V} {handle : Nat}
    (tidy : Tidy base origin world) (new : base ≤ handle) (inUse : world.InUse handle) :
    Tidy base origin (after (finish host place handle) world) ∧
      world.SameStock (after (finish host place handle) world) := by
  have announces (middle : World V) (held : Tidy base origin middle ∧ world.SameStock middle) :
      Tidy base origin (after (announce place handle) middle) ∧
        world.SameStock (after (announce place handle) middle) := by
    obtain ⟨journal, ran⟩ := announce_run place handle middle
    obtain ⟨tidy, same⟩ := held
    rw [after_of_ok ran]
    exact ⟨⟨tidy.faithful, tidy.owner_inUse, tidy.bus_eq, tidy.child_new⟩,
      same.trans ⟨rfl, rfl, rfl⟩⟩
  cases hooked : (world.object handle).kind.hook with
  | none =>
      rw [after, finish_run_of_none hooked]
      exact announces world ⟨tidy, .refl world⟩
  | some hook =>
      have acted := ownActs_tidy tidy new (discreet.acts hook handle world inUse)
      rw [after, finish_run_of_some hooked]
      cases outcome : (host.hook hook handle).run world with
      | ok value middle =>
          rw [after_of_ok outcome] at acted
          rw [run_bind_ok outcome]
          exact announces middle acted
      | error fault final =>
          rw [after_of_error outcome] at acted
          rw [run_bind_error outcome]
          exact acted

/-- A creation that fails at once leaves nothing. -/
theorem residual_of_refused (tidy : Tidy base origin world) (fault : Fault) :
    Residual host base place origin world.objects.size (.error fault world) :=
  ⟨tidy, .inr fun _ isLater there => absurd there (Nat.not_lt.mpr isLater)⟩

section Children

variable {depth : Nat} (discreet : host.Discreet place) (new : base ≤ before.count)
  (residual : ∀ (data : Value) (world : World V), (world.scene place).Sound base →
    place < world.modules.size → base ≤ world.objects.size → Tidy base origin world →
      Residual host base place origin world.objects.size
        ((createWithin host place depth data).run world))

include discreet new residual

theorem hangChildren_residual (children : List Value) {world : World V}
    (known : place < world.modules.size) (tidy : Tidy base origin world)
    (growing : Scene.Growing base before (world.scene place) built)
    (hangs : (world.scene place).HangsBelow before.count built)
    (covered : (world.scene place).Covered before.count) :
    ChildrenResidual host base place origin before.count
      ((hangChildren host place depth before.count children).run world) := by
  induction children generalizing world built with
  | nil => exact ⟨tidy, covered⟩
  | cons child rest inductionHypothesis =>
      have worldNew : base ≤ world.objects.size := new.trans growing.top_lt.le
      have created :=
        createWithin_created discreet.quiet base depth child world growing.sound known worldNew
      have left := residual child world growing.sound known worldNew tidy
      rw [hangChildren_cons, hangChildren_singleton]
      cases outcome : (createWithin host place depth child).run world with
      | ok handle middle =>
          rw [outcome] at created left
          obtain ⟨isTop, more, childGrowing, childHangs⟩ := created
          subst isTop
          have topThere : before.count < middle.objects.size :=
            growing.top_lt.trans childGrowing.top_lt
          obtain ⟨appended, ranAppend, appendedScene⟩ :=
            append_scene place topThere childGrowing.top_lt
          have nextGrowing := growing.append childGrowing new
          have nextHangs := growing.append_hangs childGrowing hangs childHangs
          have nextCovered := covered.append growing childGrowing left.2
          have nextTidy : Tidy base origin
              (after (append before.count (world.scene place).count) middle) :=
            left.1.append before.count worldNew childGrowing.top_lt
          rw [after_of_ok ranAppend] at nextTidy
          have appendedKnown : place < appended.modules.size :=
            known_of_known_eq known
              ((congrArg Scene.known appendedScene).trans childGrowing.grown.known_eq)
          rw [← appendedScene] at nextGrowing nextHangs nextCovered
          rw [run_bind_ok ((run_bind_ok outcome).trans ranAppend)]
          exact inductionHypothesis appendedKnown nextTidy nextGrowing nextHangs nextCovered
      | error fault middle =>
          rw [outcome] at created left
          obtain ⟨-, more, grown, -⟩ := created
          rw [run_bind_error (run_bind_error outcome)]
          refine ⟨left.1, left.2.imp_right fun cleaned => ?_⟩
          exact covered.further growing grown cleaned

theorem hangListed_residual (descriptor : Entries) {world : World V}
    (known : place < world.modules.size) (tidy : Tidy base origin world)
    (growing : Scene.Growing base before (world.scene place) built)
    (hangs : (world.scene place).HangsBelow before.count built)
    (covered : (world.scene place).Covered before.count) :
    ChildrenCreated host base place before
        ((hangListed host place depth before.count descriptor).run world) ∧
      ChildrenResidual host base place origin before.count
        ((hangListed host place depth before.count descriptor).run world) := by
  unfold hangListed
  cases listed : childrenOf descriptor with
  | error cause =>
      rw [run_bind_error (ofUse_error_run cause world)]
      exact ⟨⟨built, growing, .inr hangs⟩, tidy, .inr covered⟩
  | ok children =>
      rw [run_bind_ok (ofUse_ok_run children world)]
      exact ⟨hangChildren_created new (createWithin_created discreet.quiet base depth) children
          known growing hangs,
        hangChildren_residual discreet new residual children known tidy growing hangs covered⟩

/-- When a child fails, what the others left hangs below the object that is discarded. -/
theorem hangOrDiscard_residual (descriptor : Entries) {world : World V}
    (known : place < world.modules.size) (tidy : Tidy base origin world)
    (growing : Scene.Growing base before (world.scene place) built)
    (hangs : (world.scene place).HangsBelow before.count built)
    (covered : (world.scene place).Covered before.count) :
    match (hangOrDiscard host place depth before.count descriptor).run world with
    | .ok _ final => Tidy base origin final ∧ (final.scene place).Covered before.count
    | .error fault final =>
      Residual host base place origin before.count (.error fault final) := by
  obtain ⟨created, left⟩ :=
    hangListed_residual discreet new residual descriptor known tidy growing hangs covered
  rw [hangOrDiscard_eq, run_tryCatch]
  cases outcome : (hangListed host place depth before.count descriptor).run world with
  | ok value final =>
      rw [outcome] at left
      exact left
  | error fault middle =>
      rw [outcome] at created left
      obtain ⟨more, middleGrowing, -⟩ := created
      have middleKnown : place < middle.modules.size := by
        have worldKnown : before.known = true :=
          growing.grown.known_eq.symm.trans (decide_eq_true known)
        exact of_decide_eq_true (middleGrowing.grown.known_eq.trans worldKnown)
      obtain ⟨final, gone, ranDiscard, finalScene, isBelow⟩ :=
        discard_scene middleGrowing.sound.forest middleGrowing.sound.keyed middleKnown new
          middleGrowing.top_lt
      have finalTidy := left.1.discard place new middleGrowing.top_lt
      rw [after_of_ok ranDiscard] at finalTidy
      simp only
      rw [run_bind_ok ranDiscard]
      refine ⟨finalTidy, left.2.imp_right fun middleCovered => ?_⟩
      rw [finalScene]
      exact middleCovered.discard isBelow

omit new

theorem createOf_residual (kind : ObjectClass V) (descriptor : Entries)
    (context : Context V) {world : World V} (sound : (world.scene place).Sound base)
    (known : place < world.modules.size) (worldNew : base ≤ world.objects.size)
    (tidy : Tidy base origin world) :
    Residual host base place origin world.objects.size
      ((createOf host place depth kind descriptor context).run world) := by
  rw [createOf_eq]
  rcases enter_cases known kind descriptor context.verbs (some context.hub) with
    ⟨cause, refused⟩ | ⟨node, entered, ⟨alone, inUse⟩, ranEnter, enteredScene⟩
  · rw [run_bind_error refused]
    exact residual_of_refused tidy _
  have enteredKnown : place < entered.modules.size :=
    known_of_known_eq known (by rw [enteredScene]; rfl)
  have enteredTidy : Tidy base origin entered := by
    have kept := Keeps.bind (Tidy.construct kind descriptor context.verbs (some context.hub))
      (fun handle => .bind (Tidy.addObject place handle) fun _ => .pure handle) world tidy
    exact after_of_ok ranEnter ▸ kept
  have growing :
      Scene.Growing base (world.scene place) (entered.scene place) [world.objects.size] := by
    rw [enteredScene]
    exact .enter sound alone inUse fun _ => scene_inUse_of_le
  have hangs :
      (entered.scene place).HangsBelow world.objects.size [world.objects.size] := by
    intro handle member
    rw [List.mem_singleton.mp member]
    exact .inr .refl
  have covered : (entered.scene place).Covered world.objects.size := by
    rw [enteredScene]
    exact Scene.covered_enter (world.scene place) _
  have created := hangOrDiscard_created worldNew (createWithin_created discreet.quiet base depth)
    descriptor enteredKnown growing hangs
  have left := hangOrDiscard_residual discreet worldNew residual descriptor enteredKnown
    enteredTidy growing hangs covered
  have top_eq : (world.scene place).count = world.objects.size := rfl
  rw [top_eq] at created left
  rw [run_bind_ok ranEnter]
  cases outcome :
      (hangOrDiscard host place depth world.objects.size descriptor).run entered with
  | error fault final =>
      rw [outcome] at left
      rw [run_bind_error outcome]
      exact left
  | ok value hung =>
      rw [outcome] at created left
      rcases created with ⟨_, more, sameRun, hungGrowing, -⟩ | ⟨_, _, different, -⟩
      · cases sameRun
        have finished := finish_tidy discreet left.1 worldNew
          ⟨hungGrowing.top_lt, hungGrowing.top_inUse⟩
        rw [run_bind_ok outcome]
        rcases finish_cases discreet.quiet world.objects.size hung with
          ⟨final, ran, -⟩ | ⟨fault, final, ran, -, raised⟩
        · rw [after_of_ok ran] at finished
          rw [run_bind_ok ran]
          refine ⟨finished.1, ?_⟩
          rw [finished.2.scene_eq place]
          exact left.2
        · rw [after_of_error ran] at finished
          rw [run_bind_error ran]
          exact ⟨finished.1, .inl raised⟩
      · cases different

end Children

/-! ## Creations -/

theorem createWithin_residual (discreet : host.Discreet place) (depth : Nat) (data : Value)
    (world : World V) (sound : (world.scene place).Sound base)
    (known : place < world.modules.size) (new : base ≤ world.objects.size)
    (tidy : Tidy base origin world) :
    Residual host base place origin world.objects.size
      ((createWithin host place depth data).run world) := by
  induction depth generalizing data world with
  | zero => exact residual_of_refused tidy _
  | succ depth inductionHypothesis =>
      rw [createWithin_succ]
      cases data.toEntries with
      | error cause => exact residual_of_refused tidy _
      | ok given =>
          rw [run_bind_ok (ofUse_ok_run given world),
            run_bind_ok (EStateM.run_get world)]
          cases resolve (world.moduleOf place) given with
          | error fault => exact residual_of_refused tidy _
          | ok resolved =>
              rw [run_bind_ok (ofExcept_ok_run resolved world)]
              exact createOf_residual discreet inductionHypothesis resolved.1 resolved.2 _
                sound known new tidy

/-- Nothing of a failed creation is left: the objects it built are disposed and stand
nowhere, the buses and the older objects are as before, and of the registrations only
those are gone whose ids it gave to other objects. -/
structure Traceless (place : Nat) (world later : World V) : Prop where
  built_disposed : ∀ handle, world.objects.size ≤ handle → handle < later.objects.size →
    (later.object handle).disposed = true ∧ (later.object handle).parent = none ∧
      (later.object handle).children = []
  built_unregistered : ∀ entry,
    entry ∈ (later.moduleOf place).registry.objects ∨
        entry ∈ (later.moduleOf place).registry.frameListeners →
      entry.2 < world.objects.size
  bus_eq : ∀ hub, (later.hub hub).bus = (world.hub hub).bus
  older_eq : ∀ handle < world.objects.size, (later.object handle).node =
    (world.object handle).node
  registry_eq : (later.moduleOf place).registry =
    (world.moduleOf place).registry.withoutIds (world.discardedIds later)

/-- A creation that fails, other than by a hook, leaves nothing behind.  Its hooks may have
let the objects listen. -/
theorem create_traceless {world final : World V} (discreet : host.Discreet place)
    (coherent : world.Coherent place) (faithful : world.Faithful world.objects.size)
    {data : Value} {fault : Fault}
    (failed : (create host place data).run world = .error fault final)
    (notByHook : ¬ host.RaisesInHook fault) : Traceless place world final := by
  have sound := coherent.sound
  have created := create_created discreet.quiet world.objects.size data sound coherent.known
    (Nat.le_refl _)
  have left := createWithin_residual discreet (data.depth + defaultsDepth) data world sound
    coherent.known (Nat.le_refl _) (Tidy.refl faithful)
  rw [create] at failed created
  rw [failed] at created left
  obtain ⟨finalSound, built, grown, raisedOrDisposed⟩ := created
  have disposed := raisedOrDisposed.resolve_left notByHook
  have cleaned := left.2.resolve_left notByHook
  have registry_eq :=
    registry_eq_withoutIds grown coherent.sound.keyed finalSound (Nat.le_refl _) disposed
  have unregistered : ∀ entry, entry ∈ (final.moduleOf place).registry.objects ∨
      entry ∈ (final.moduleOf place).registry.frameListeners →
        entry.2 < world.objects.size := by
    intro entry listed
    have member : entry ∈ (final.moduleOf place).registry.objects := by
      rcases listed with member | isListener
      · exact member
      · exact finalSound.keyed.listed entry isListener
    rw [registry_eq] at member
    exact coherent.registered_there entry (List.mem_filter.mp member).1
  refine ⟨fun handle isNew there => ?_, unregistered, ?_, ?_, registry_eq⟩
  · have alone := finalSound.forest.disposed_isAlone handle isNew (cleaned handle isNew there)
    exact ⟨cleaned handle isNew there, alone⟩
  · exact left.1.bus_eq_of_disposed cleaned
  · exact grown.node_eq

end World

/-! ## Bells that come to nothing -/

theorem wakeful_discreet (place : Nat) : wakeful.Discreet place where
  quiet := (wakeful_listensOnly place).quiet
  acts hook handle world inUse := by
    have act := @World.OwnAct.listened wakefulWords handle world handle "ring" () false .refl
      inUse
    rw [wakeful_hook]
    exact .single act

namespace World

/-- An object that listens never fails. -/
theorem listenAs_ok (world : World V) (handle : Nat) (event : String) (callback : V.Callback)
    (once : Bool) :
    ∃ id final, (listenAs handle event callback once).run world = .ok id final := by
  unfold listenAs
  rw [run_bind_ok (EStateM.run_get world)]
  cases isHub : (world.object handle).hub with
  | none =>
      simp only [isHub]
      exact ⟨none, _, rfl⟩
  | some hub =>
      obtain ⟨id, final, ran, -⟩ :=
        listen_buses world hub event callback ⟨once, world.objectValue handle, .null⟩
      simp only [isHub]
      rw [run_bind_ok ran]
      exact ⟨some id, final, rfl⟩

end World

theorem wakeful_raises_nothing (fault : Fault) : ¬ wakeful.RaisesInHook fault := by
  rintro ⟨hook, handle, world, final, raised⟩
  obtain ⟨id, later, ran⟩ := @World.listenAs_ok wakefulWords world handle "ring" () false
  have silent : (wakeful.hook hook handle).run world = .ok () later := World.run_bind_ok ran
  rw [silent] at raised
  cases raised

/-- A hall with a bell below another one, and a third beside them. -/
def nave : World wakefulWords :=
  World.after (World.create wakeful 0 (bell "k" []))
    (World.after (World.create wakeful 0 (bell "a" [bell "b" []])) hall)

theorem nave_attended : World.Attended wakeful 0 nave :=
  .created (.created hall_attended _) _

/-- The descriptor of a bell that takes the name of an earlier one in its last child but
one, after a finished child that did the same.  The last child is of an unknown type. -/
def cracked : Value :=
  bell "n" [bell "a" [bell "b" []], bell "n" [],
    .map (Entries.ofTexts [("_type", .text "nope")])]

/-- Four bells were built and are disposed, with two of them having had the same name.  The
earlier bells stay linked, and those whose names were taken are not registered any more. -/
theorem World.create_traceless_nave :
    ∃ fault final,
      (World.create wakeful 0 cracked).run nave = .error fault final ∧
        World.Traceless 0 nave final ∧
          nave.discardedIds final = ["n", "a", "b", "n"] ∧
            (nave.moduleOf 0).registry.objects = [("a", 0), ("b", 1), ("k", 2)] ∧
              (final.moduleOf 0).registry.objects = [("k", 2)] ∧
                (final.object 0).children = [1] := by
  have fails :
      World.failsWith (World.create wakeful 0 cracked) nave (fun _ _ => true) = true := by
    decide +kernel
  obtain ⟨fault, final, outcome, -⟩ := World.exists_error_of_failsWith fails
  have coherent := nave_attended.populated.coherent (wakeful_discreet 0).quiet
  have faithful : nave.Faithful nave.objects.size :=
    (nave_attended.faithful (wakeful_attentive 0)).mono (Nat.zero_le _)
  have traceless := World.create_traceless (wakeful_discreet 0) coherent faithful outcome
    (wakeful_raises_nothing fault)
  refine ⟨fault, final, outcome, traceless, ?_⟩
  rw [← World.after_of_error outcome]
  decide +kernel

/-- A host whose bells register a listener that belongs to none of them. -/
def town : Host wakefulWords where
  callback _ _ := pure ()
  handler := nofun
  verb := nofun
  ticker := nofun
  hook _ _ := do
    let _ ← World.listen 0 "ring" () ⟨false, .null, .null⟩
    return ()

/-- A hall with a bell under the id that is generated next. -/
def chapel : World wakefulWords := World.after (World.create wakeful 0 (bell "auto-1" [])) hall

theorem chapel_attended : World.Attended wakeful 0 chapel := .created hall_attended _

/-- The descriptor of an object without an id.  Its child is of an unknown type. -/
def unnamed : Value :=
  .map (Entries.ofTexts
    [("_children", .list [.map (Entries.ofTexts [("_type", .text "nope")])])])

/-- An object also loses its registration to one that is given no id, if the id that is
generated is its own. -/
theorem World.create_unnamed :
    ∃ fault final, (World.create town 0 unnamed).run chapel = .error fault final ∧
      fault.report?.map Report.kind = some .objectCreation ∧
        (chapel.moduleOf 0).registry.objects = [("auto-1", 0)] ∧
          (final.moduleOf 0).registry.objects = [] := by
  have fails : World.failsWith (World.create town 0 unnamed) chapel (fun fault _ =>
      fault.report?.map Report.kind == some .objectCreation) = true := by
    decide +kernel
  obtain ⟨fault, final, outcome, kind⟩ := World.exists_error_of_failsWith fails
  refine ⟨fault, final, outcome, beq_iff_eq.mp kind, ?_⟩
  rw [← World.after_of_error outcome]
  decide +kernel

/-- No hook fails here, and the creations fail because a type is unknown.  But what the hooks
of the finished bells registered belongs to no object, and it stays on the bus; and an id that
is generated can be that of an object. -/
theorem World.create_not_traceless_town :
    (∀ hook handle world, ∃ final, (town.hook hook handle).run world = .ok () final) ∧
      nave.Coherent 0 ∧
        (∃ fault final,
          (World.create town 0 cracked).run nave = .error fault final ∧
            fault.report?.map Report.kind = some .objectCreation ∧
              (nave.hub 0).bus.listeners.length < (final.hub 0).bus.listeners.length ∧
                ¬ World.Traceless 0 nave final) ∧
        chapel.Coherent 0 ∧
          ∃ fault final, (World.create town 0 unnamed).run chapel = .error fault final ∧
            fault.report?.map Report.kind = some .objectCreation ∧
              (chapel.moduleOf 0).registry.objects = [("auto-1", 0)] ∧
                (final.moduleOf 0).registry.objects = [] := by
  have fails : World.failsWith (World.create town 0 cracked) nave (fun fault final =>
      fault.report?.map Report.kind == some .objectCreation &&
        decide ((nave.hub 0).bus.listeners.length < (final.hub 0).bus.listeners.length)) =
      true := by
    decide +kernel
  refine ⟨fun hook handle world => ?_,
    nave_attended.populated.coherent (wakeful_discreet 0).quiet, ?_,
    chapel_attended.populated.coherent (wakeful_discreet 0).quiet, create_unnamed⟩
  · obtain ⟨id, final, ran, -⟩ := listen_buses world 0 "ring" () ⟨false, .null, .null⟩
    exact ⟨final, run_bind_ok ran⟩
  · obtain ⟨fault, final, outcome, checked⟩ := World.exists_error_of_failsWith fails
    obtain ⟨kind, more⟩ := (Bool.and_eq_true _ _).mp checked
    have isMore := of_decide_eq_true more
    refine ⟨fault, final, outcome, beq_iff_eq.mp kind, isMore, fun traceless => ?_⟩
    rw [traceless.bus_eq 0] at isMore
    exact Nat.lt_irrefl _ isMore

end CommandHost
