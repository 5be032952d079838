import CommandHost.Proofs.Object.Ownership

/-!
# Listeners of replaced objects

A module is used by creating and removing objects and by letting registered objects
listen.  `Lived` says which worlds such runs lead to.  The main statement: an object that
owns listeners is registered, so that it can be removed with them, exactly if no later
object took its id.  The owner that was replaced keeps its listeners, and no removal
finds it.
-/

namespace CommandHost

variable {V : Vocabulary}

namespace World

variable {host : Host V} {place : Nat} {world later : World V} {handle : Nat}

/-- An object that is there and registered with a module under its own id. -/
def IsRegistered (world : World V) (place handle : Nat) : Prop :=
  handle < world.objects.size ∧
    (world.moduleOf place).registry.get? (world.object handle).id = some handle

/-- A later object bears the id of an object. -/
def IsReplaced (world : World V) (handle : Nat) : Prop :=
  ∃ other, handle < other ∧ other < world.objects.size ∧
    (world.object other).id = (world.object handle).id

instance (world : World V) (place handle : Nat) :
    Decidable (world.IsRegistered place handle) :=
  inferInstanceAs (Decidable (_ ∧ _))

/-- The worlds in which a module can be that was new, and whose objects were created and
removed and listened while they were registered, with other changes in between that
concern neither objects nor listeners. -/
inductive Lived (host : Host V) (place : Nat) : World V → Prop where
  | new {world : World V} (known : place < world.modules.size)
      (hubThere : world.hubOf place < world.hubs.size) (noObjects : world.objects.size = 0)
      (empty : (world.moduleOf place).registry = .empty)
      (noOwners : world.OwnedBy (world.hubOf place) fun _ => False) : Lived host place world
  | created {world : World V} (lived : Lived host place world) (data : Value) :
      Lived host place (after (create host place data) world)
  | removed {world : World V} (lived : Lived host place world) (id : String) :
      Lived host place (after (remove place id) world)
  | listened {world : World V} (lived : Lived host place world) {handle : Nat}
      (registered : world.IsRegistered place handle) (event : String)
      (callback : V.Callback) (once : Bool) :
      Lived host place (after (listenAs handle event callback once) world)
  | changed {world later : World V} (lived : Lived host place world)
      (apart : world.Apart later) : Lived host place later

/-- The trees and the registry are in order, ids mean the objects that came last, and
objects that own listeners are in use. -/
structure Settled (place hub : Nat) (world : World V) : Prop where
  known : place < world.modules.size
  sound : (world.scene place).Sound 0
  succession : (world.scene place).Succession
  isTended : world.IsTended place hub

namespace Settled

variable {hub : Nat}

theorem of_moves (settled : world.Settled place hub) (moves : Moves place world later)
    (sound : (later.scene place).Sound 0) (known : place < later.modules.size) :
    later.Settled place hub := by
  have kept : (later.scene place).Succession ∧ later.IsTended place hub := by
    -- The last world is the only one whose trees are known to be in order.
    clear sound known
    induction moves with
    | refl => exact ⟨settled.succession, settled.isTended⟩
    | tail _ move inductionHypothesis =>
        exact ⟨move.succession inductionHypothesis.1, move.isTended inductionHypothesis.2⟩
  exact ⟨known, sound, kept.1, kept.2⟩

theorem of_act (settled : world.Settled place hub) (act : world.Act later) :
    later.Settled place hub := by
  have same := act.sameStock
  apply settled.of_moves (.single (.acted act))
  · rw [same.scene_eq place]
    exact settled.sound
  · rw [same.modules_eq]
    exact settled.known

theorem inUse_of_registered (settled : world.Settled place hub)
    (registered : world.IsRegistered place handle) : world.InUse handle := by
  have member : ((world.object handle).id, handle) ∈ (world.scene place).registry.objects :=
    (Table.mem_iff_get? settled.sound.keyed.keys_nodup).mpr registered.2
  exact ⟨registered.1, settled.sound.lively _ member (Nat.zero_le _)⟩

theorem inUse_of_owns (settled : world.Settled place hub) (owns : world.Owns place handle) :
    world.InUse handle := by
  obtain ⟨owners, tended⟩ := settled.isTended
  have owned := tended.owned
  rw [← tended.hubOf_eq] at owned
  exact tended.inUse handle (owned.of_owns owns)

theorem create (listensOnly : host.ListensOnly place) (settled : world.Settled place hub)
    (data : Value) : (after (create host place data) world).Settled place hub := by
  have created := created_sound listensOnly.quiet settled.sound settled.known data
  exact settled.of_moves (create_moves listensOnly data settled.sound settled.known)
    created.1 created.2

theorem remove (settled : world.Settled place hub) (id : String) :
    (after (remove place id) world).Settled place hub := by
  have removed := removed_sound settled.sound settled.known id
  exact settled.of_moves (remove_moves id settled.sound settled.known) removed.1 removed.2

/-- Removing a registered object releases its listeners. -/
theorem remove_releases (settled : world.Settled place hub)
    (registered : world.IsRegistered place handle) :
    ∃ final,
      (World.remove place (world.object handle).id : Effect V Unit).run world =
          .ok () final ∧
        ¬ final.Owns place handle := by
  obtain ⟨final, gone, ran, finalScene, isBelow⟩ :=
    remove_of_present settled.sound settled.known registered.2
  have finalSettled := settled.remove (world.object handle).id
  rw [after_of_ok ran] at finalSettled
  refine ⟨final, ran, fun owns => ?_⟩
  -- Owners are in use after the removal as well, but the object is disposed by then.
  have inUse := (finalSettled.inUse_of_owns owns).2
  have isGone : handle ∈ gone := (isBelow handle).mpr .refl
  have disposed_eq : (final.object handle).disposed =
      (decide (handle ∈ gone) || (world.object handle).disposed) := by
    have node_eq := Scene.retireAll_disposed (world.scene place) gone handle
    have scene_eq := congrArg (fun scene => (Scene.node scene handle).disposed) finalScene
    exact scene_eq.trans node_eq
  rw [inUse, decide_eq_true isGone, Bool.true_or] at disposed_eq
  cases disposed_eq

end Settled

theorem Lived.settled (listensOnly : host.ListensOnly place)
    (lived : Lived host place world) : ∃ hub, world.Settled place hub := by
  induction lived with
  | @new world known hubThere noObjects empty noOwners =>
      have absent (handle : Nat) : ¬ handle < world.objects.size := by omega
      refine ⟨world.hubOf place, known, ?_, ?_, fun _ => False, rfl, hubThere, ?_, noOwners, ?_⟩
      · exact .of_alone empty fun handle => scene_isAlone_of_le (Nat.not_lt.mp (absent handle))
      · exact fun handle there => absurd there (absent handle)
      · exact fun handle there => absurd there (absent handle)
      · exact fun handle isOwner => isOwner.elim
  | created _ data inductionHypothesis =>
      obtain ⟨hub, settled⟩ := inductionHypothesis
      exact ⟨hub, settled.create listensOnly data⟩
  | removed _ id inductionHypothesis =>
      obtain ⟨hub, settled⟩ := inductionHypothesis
      exact ⟨hub, settled.remove id⟩
  | listened _ registered event callback once inductionHypothesis =>
      obtain ⟨hub, settled⟩ := inductionHypothesis
      have inUse := settled.inUse_of_registered registered
      exact ⟨hub, settled.of_act (.listened _ event callback once inUse)⟩
  | changed _ apart inductionHypothesis =>
      obtain ⟨hub, settled⟩ := inductionHypothesis
      exact ⟨hub, settled.of_act (.apart apart)⟩

/-- An object that owns a listener is registered under its own id exactly if no later
object bears that id, and then removing it releases its listeners. -/
theorem Lived.owner_registered_iff (listensOnly : host.ListensOnly place)
    (lived : Lived host place world) (owns : world.Owns place handle) :
    (world.IsRegistered place handle ↔ ¬ world.IsReplaced handle) ∧
      (world.IsRegistered place handle →
        ∃ final,
          (remove place (world.object handle).id).run world = .ok () final ∧
            ¬ final.Owns place handle) := by
  obtain ⟨hub, settled⟩ := lived.settled listensOnly
  have inUse := settled.inUse_of_owns owns
  exact ⟨settled.succession handle inUse.1 inUse.2, settled.remove_releases⟩

end World

/-! ## Objects that listen when they are created -/

abbrev wakefulWords : Vocabulary where
  Callback := Unit
  Handler := Empty
  Verb := Empty
  Ticker := Empty
  Hook := Unit
  Note := Empty
  Memory := Unit

/-- A host whose objects listen when they are created. -/
def wakeful : Host wakefulWords where
  callback _ _ := pure ()
  handler := nofun
  verb := nofun
  ticker := nofun
  hook _ handle := do
    let _ ← World.listenAs handle "ring" () false
    return ()

theorem wakeful_hook (hook : Unit) (handle : Nat) (world : World wakefulWords) :
    World.after (wakeful.hook hook handle) world =
      World.after (World.listenAs handle "ring" () false) world := by
  have listens : wakeful.hook hook handle =
      World.listenAs handle "ring" () false >>= fun _ => pure () := rfl
  rw [listens, World.after_bind_pure]

theorem wakeful_listensOnly (place : Nat) : wakeful.ListensOnly place where
  quiet hook handle world := by
    have same := World.listenAs_sameStock world handle "ring" () false
    rw [wakeful_hook]
    exact World.unmoved_of_scene_eq (same.scene_eq place)
  acts hook handle world inUse := by
    have act := @World.Act.listened wakefulWords world handle "ring" () false inUse
    rw [wakeful_hook]
    exact .single act

/-- A world with a module whose bells listen when they are created. -/
def hall : World wakefulWords :=
  { World.start .standard [] () with
    modules := #[.ofClass ⟨[("bell", ⟨"Bell", [], [], none, some ()⟩)], [], none⟩ "m" 0] }

theorem hall_lived : World.Lived wakeful 0 hall :=
  .new (by decide) (by decide) rfl rfl
    ⟨[], .empty, fun _ member => absurd member List.not_mem_nil⟩

/-- The descriptor of a bell with an id, and of what is below it. -/
def bell (id : String) (below : List Value) : Value :=
  .map (Entries.ofTexts
    [("_id", .text id), ("_type", .text "bell"), ("_children", .list below)])

/-- A bell with another one below it, and then a bell that takes the id of the first. -/
def belfry : World wakefulWords :=
  World.after (World.create wakeful 0 (bell "a" []))
    (World.after (World.create wakeful 0 (bell "a" [bell "b" []])) hall)

/-- The bell below the replaced one can still be removed with its listener, the replaced
one cannot. -/
theorem World.Lived.owner_registered_iff_belfry :
    World.Lived wakeful 0 belfry ∧ belfry.Owns 0 0 ∧ ¬ belfry.IsRegistered 0 0 ∧
      belfry.Owns 0 1 ∧ belfry.IsRegistered 0 1 ∧
        ∃ final,
          (World.remove 0 (belfry.object 1).id).run belfry = .ok () final ∧
            ¬ final.Owns 0 1 := by
  have lived : World.Lived wakeful 0 belfry := .created (.created hall_lived _) _
  have ownsFirst : belfry.Owns 0 0 := by decide +kernel
  have ownsSecond : belfry.Owns 0 1 := by decide +kernel
  have firstReplaced : belfry.IsReplaced 0 :=
    ⟨2, by decide, by decide +kernel, by decide +kernel⟩
  have secondRegistered : belfry.IsRegistered 0 1 := by decide +kernel
  have first := World.Lived.owner_registered_iff (wakeful_listensOnly 0) lived ownsFirst
  have second := World.Lived.owner_registered_iff (wakeful_listensOnly 0) lived ownsSecond
  exact ⟨lived, ownsFirst, fun registered => first.1.mp registered firstReplaced, ownsSecond,
    secondRegistered, second.2 secondRegistered⟩

/-! ## A listener that nothing can release -/

def namesake : Value := .map (Entries.ofTexts [("_id", .text "a")])

/-- The world after an object was created and listened. -/
def tenanted : World wakefulWords :=
  World.after (World.listenAs 0 "e" () false)
    (World.after (World.create wakeful 0 namesake) hall)

/-- The world after another object with the same id was created. -/
def orphaned : World wakefulWords := World.after (World.create wakeful 0 namesake) tenanted

/-- A registered object that listens and is then replaced keeps its listener.  It is not
registered any more, and no removal releases the listener. -/
theorem orphaned_owner_not_registered :
    World.Lived wakeful 0 orphaned ∧ tenanted.IsRegistered 0 0 ∧ orphaned.Owns 0 0 ∧
      ¬ orphaned.IsRegistered 0 0 ∧
        ∀ id, (World.after (World.remove 0 id) orphaned).Owns 0 0 := by
  have lived : World.Lived wakeful 0 orphaned :=
    .created (.listened (.created hall_lived _) (by decide +kernel) "e" () false) _
  have owns : orphaned.Owns 0 0 := by decide +kernel
  refine ⟨lived, by decide +kernel, owns, by decide +kernel, fun id => ?_⟩
  by_cases isTaken : id = "a"
  · rw [isTaken]
    decide +kernel
  · have entries : (orphaned.moduleOf 0).registry.objects = [("a", 1)] := by decide +kernel
    have absent : (orphaned.moduleOf 0).registry.get? id = none := by
      rw [Registry.get?, entries]
      simp [Table.get?, Ne.symm isTaken]
    rw [World.after_of_ok (World.remove_of_absent absent)]
    exact owns

end CommandHost
