import CommandHost.Proofs.Event.Run

/-!
# The bus refines a list of registrations

The registrations that a history leaves are a plain list: a registration is appended
to it, and a release deletes from it.  After each moment of a run, however deep in a
delivery it happens, the two tables of the bus are those of that list, and so is
everything that the bus tells about itself.
-/

namespace CommandHost

variable {κ : Type}

/-- The registrations that a history leaves. -/
def registrations (history : List (Moment κ)) : Ledger (Observed κ) :=
  (Account.empty.afterAll history).ledger

/-- A world in which nothing happened to the bus of a hub yet. -/
structure IsNew (hub : Nat) (world : World (observed κ)) : Prop where
  present : hub < world.hubs.size
  nobody : (world.hub hub).bus = .empty
  nothing : world.memory = []

/-- What is remembered after a run of code. -/
def Code.history (code : Code κ) (behaviour : Behaviour κ) (depth hub : Nat)
    (world : World (observed κ)) : List (Moment κ) :=
  (World.after (code.run (behaviour.host hub depth) hub) world).memory

/-- What is remembered after a run in a new world are steps from an empty bus to the
bus after the run. -/
theorem IsNew.steps {hub : Nat} {world : World (observed κ)} (isNew : IsNew hub world)
    (code : Code κ) (behaviour : Behaviour κ) (depth : Nat) :
    Stage.Steps ⟨.empty, world.listenerIds, []⟩ (code.history behaviour depth hub world)
      ((World.after (code.run (behaviour.host hub depth) hub) world).stage hub []) := by
  obtain ⟨moments, leads⟩ :=
    World.run_narrates (World.behaviour_conducts behaviour hub depth) code world
      isNew.present
  have remembered : code.history behaviour depth hub world = moments := by
    rw [Code.history, (leads []).memory_eq, isNew.nothing, List.nil_append]
  have start : world.stage hub [] = ⟨.empty, world.listenerIds, []⟩ := by
    rw [World.stage, isNew.nobody]
  rw [remembered, ← start]
  exact (leads []).steps

/-- At each point of its history a bus is a faithful image of the registrations that
are left, in its tables and in all that it tells. -/
theorem Code.refines_registrations (code : Code κ) (behaviour : Behaviour κ)
    (depth : Nat) {hub : Nat} {world : World (observed κ)} (isNew : IsNew hub world) :
    (∀ past, past <+: code.history behaviour depth hub world →
      Mirrors (lastBus .empty past) (registrations past) ∧
        Tells (lastBus .empty past) (registrations past)) ∧
      ((World.after (code.run (behaviour.host hub depth) hub) world).hub hub).bus =
        lastBus .empty (code.history behaviour depth hub world) := by
  have steps := isNew.steps code behaviour depth
  refine ⟨?_, steps.lastBus_eq.symm⟩
  rintro past ⟨future, history⟩
  rw [← history] at steps
  obtain ⟨middle, earlier, _⟩ := steps.split_append
  have agrees := (Account.Agrees.empty world.listenerIds).steps earlier
  have mirrors := agrees.mirrors
  rw [← earlier.lastBus_eq] at mirrors
  exact ⟨mirrors, mirrors.tells⟩

/-- A listener that registers another one for an event of its own. -/
def founder : Behaviour Unit := fun _ _ => .listen "f" () .standard fun _ => .done

/-- Two founders, one for a single delivery and one with an owner; their event is
fired, and then the owner gives up its listeners. -/
def founding : Code Unit :=
  .listen "e" () ⟨true, .null, .null⟩ fun _ =>
    .listen "e" () ⟨false, .text "owner", .null⟩ fun _ =>
      .fire "e" .null (Code.unless (.releaseOwner (.text "owner") .done))

theorem Code.refines_registrations_founding :
    IsNew 0 (World.start .standard [] [] : World (observed Unit)) ∧
      (∀ past, past <+: founding.history founder 1 0 (.start .standard [] []) →
        Mirrors (lastBus .empty past) (registrations past)) ∧
      (registrations (founding.history founder 1 0 (.start .standard [] []))).map
          Listener.id =
        ["listener-3", "listener-4"] := by
  have isNew : IsNew 0 (World.start .standard [] [] : World (observed Unit)) :=
    ⟨by decide, rfl, rfl⟩
  refine ⟨isNew, fun past isPast => ?_, by decide +kernel⟩
  exact ((Code.refines_registrations founding founder 1 isNew).1 past isPast).1

end CommandHost
