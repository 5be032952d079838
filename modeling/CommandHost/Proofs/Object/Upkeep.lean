import CommandHost.Proofs.Object.Moves

/-!
# What creations and removals keep

Creations and removals are made of few kinds of steps: an object is built, the links of
an object change, a registry changes, an owner's listeners are released, a line is logged,
and hooks run.  A property that none of these steps breaks, whatever their arguments, is
kept by every creation and every removal.  No order among trees or in the registry is
needed for that.
-/

namespace CommandHost

variable {V : Vocabulary}

/-- Only its links and whether it is disposed may have changed of an object. -/
def RuntimeObject.Relinked (object later : RuntimeObject V) : Prop :=
  later =
    { object with
      parent := later.parent
      children := later.children
      disposed := later.disposed }

namespace World

variable {host : Host V} {holds : World V → Prop} {place : Nat}

/-- The steps by which objects are linked, disposed and taken off the registry of a module
keep a property. -/
structure Maintained (place : Nat) (holds : World V → Prop) : Prop where
  log : ∀ record, Keeps holds (Effect.log record)
  relink : ∀ handle change, (∀ object : RuntimeObject V, object.Relinked (change object)) →
    Keeps holds (Effect.updateObject handle change)
  removeOwn : ∀ handle, Keeps holds (removeOwn place handle)
  releaseOwner : ∀ hub owner, Keeps holds (releaseOwner hub owner)

/-- The same, where the registry may change in any way. -/
structure Upheld (place : Nat) (holds : World V → Prop) : Prop where
  log : ∀ record, Keeps holds (Effect.log record)
  relink : ∀ handle change, (∀ object : RuntimeObject V, object.Relinked (change object)) →
    Keeps holds (Effect.updateObject handle change)
  registry : ∀ change, Keeps holds (Effect.updateRegistry place change)
  releaseOwner : ∀ hub owner, Keeps holds (releaseOwner hub owner)

end World

/-- So do the steps by which objects are built and registered, and the hooks of a host. -/
structure Host.Maintains (host : Host V) (place : Nat) (holds : World V → Prop) : Prop
    extends World.Maintained place holds where
  enter : ∀ kind descriptor verbs hub,
    World.Keeps holds (World.enter place kind descriptor verbs (some hub))
  hook : ∀ hook handle, World.Keeps holds (host.hook hook handle)

/-- So do the steps by which objects are built, and the hooks of a host, where the registry
may change in any way. -/
structure Host.Upholds (host : Host V) (place : Nat) (holds : World V → Prop) : Prop
    extends World.Upheld place holds where
  construct : ∀ kind descriptor verbs hub,
    World.Keeps holds (World.construct kind descriptor verbs (some hub))
  hook : ∀ hook handle, World.Keeps holds (host.hook hook handle)

namespace World

variable {host : Host V} {holds : World V → Prop} {place : Nat}

theorem Keeps.forM_mem {α : Type} {items : List α} {act : α → Effect V Unit}
    (keeps : ∀ item ∈ items, Keeps holds (act item)) : Keeps holds (items.forM act) := by
  induction items with
  | nil => exact .pure ()
  | cons item rest inductionHypothesis =>
      exact .bind (keeps item List.mem_cons_self) fun _ => inductionHypothesis fun other member =>
        keeps other (List.mem_cons_of_mem item member)

theorem Keeps.tryCatch {act : Effect V Unit} {handle : Fault → Effect V Unit}
    (first : Keeps holds act) (rest : ∀ fault, Keeps holds (handle fault)) :
    Keeps holds (tryCatch act handle) := by
  intro world held
  have middleHeld := first world held
  rw [after, run_tryCatch]
  cases outcome : act.run world with
  | ok value final =>
      rw [after_of_ok outcome] at middleHeld
      exact middleHeld
  | error fault middle =>
      rw [after_of_error outcome] at middleHeld
      exact rest fault middle middleHeld

namespace Maintained

variable (maintained : Maintained place holds)

include maintained

theorem append (parent child : Nat) : Keeps holds (append parent child) :=
  .bind (maintained.relink child _ fun _ => by exact rfl) fun _ =>
    maintained.relink parent _ fun _ => by exact rfl

theorem detach (handle : Nat) : Keeps holds (detach handle) := by
  apply Keeps.look
  intro world held
  cases (world.object handle).parent with
  | none => exact held
  | some parent => exact maintained.relink parent _ (fun _ => by exact rfl) world held

theorem retire (handle : Nat) : Keeps holds (retire handle) := by
  have unlinks : Keeps holds
      (do
        World.detach handle
        Effect.updateObject handle fun object =>
          { object with children := [], parent := none, disposed := true } :
        Effect V Unit) :=
    .bind (maintained.detach handle) fun _ => maintained.relink handle _ fun _ => by exact rfl
  apply Keeps.look
  intro world held
  cases (world.object handle).hub with
  | none => exact unlinks world held
  | some hub => exact Keeps.bind (maintained.releaseOwner hub _) (fun _ => unlinks) world held

theorem disposeWithin (depth handle : Nat) : Keeps holds (disposeWithin depth handle) := by
  induction depth generalizing handle with
  | zero => exact .throw _
  | succ depth inductionHypothesis =>
      apply Keeps.look
      intro world held
      exact Keeps.bind (.forM inductionHypothesis) (fun _ => maintained.retire handle) world held

theorem discard (handle : Nat) : Keeps holds (discard place handle) := by
  apply Keeps.look
  intro world held
  have disposes : Keeps holds (dispose handle) := by
    apply Keeps.look
    intro middle middleHeld
    exact maintained.disposeWithin middle.depthBound handle middle middleHeld
  exact Keeps.bind (.ofUse _)
    (fun _ => .bind disposes fun _ => .forM maintained.removeOwn) world held

theorem remove (id : String) : Keeps holds (remove place id) := by
  apply Keeps.look
  intro world held
  cases found : (world.moduleOf place).registry.get? id with
  | none =>
      simp only [found]
      exact held
  | some handle =>
      simp only [found]
      exact Keeps.bind (maintained.discard handle)
        (fun _ => .ite (maintained.log _) (.pure ())) world held

end Maintained

namespace Upheld

variable (upheld : Upheld place holds)

include upheld

theorem addObject (handle : Nat) : Keeps holds (addObject place handle) := by
  apply Keeps.look
  intro world held
  have adds := upheld.registry fun registry =>
    registry.add (world.object handle).id handle (world.object handle).listensToFrames
  exact Keeps.ite (.bind (upheld.log _) fun _ => adds) adds world held

theorem maintained : Maintained place holds where
  log := upheld.log
  relink := upheld.relink
  releaseOwner := upheld.releaseOwner
  removeOwn handle := by
    apply Keeps.look
    intro world held
    exact upheld.registry _ world held

end Upheld

end World

namespace Host.Maintains

open World

variable {host : Host V} {place : Nat} {holds : World V → Prop}
  (maintains : host.Maintains place holds)

include maintains

theorem finish (handle : Nat) : Keeps holds (finish host place handle) := by
  have announces : Keeps holds (announce place handle) :=
    .look fun world held => Keeps.ite (maintains.log _) (.pure ()) world held
  intro world held
  cases hooked : (world.object handle).kind.hook with
  | none =>
      rw [after, finish_run_of_none hooked]
      exact announces world held
  | some hook =>
      rw [after, finish_run_of_some hooked]
      exact Keeps.bind (maintains.hook hook handle) (fun _ => announces) world held

theorem createWithin (depth : Nat) (data : Value) :
    Keeps holds (createWithin host place depth data) := by
  induction depth generalizing data with
  | zero => exact .throw _
  | succ depth inductionHypothesis =>
      have hangs (handle : Nat) (children : List Value) :
          Keeps holds (hangChildren host place depth handle children) :=
        .forM fun child => .bind (inductionHypothesis child) fun top =>
          maintains.append handle top
      have hangsOrDiscards (handle : Nat) (descriptor : Entries) :
          Keeps holds (hangOrDiscard host place depth handle descriptor) :=
        .tryCatch (.bind (.ofUse _) fun children => hangs handle children) fun fault =>
          .bind (maintains.discard handle) fun _ => .throw fault
      have creates (kind : ObjectClass V) (descriptor : Entries) (context : Context V) :
          Keeps holds (createOf host place depth kind descriptor context) := by
        rw [createOf_eq]
        exact .bind (maintains.enter _ _ _ _) fun handle =>
          .bind (hangsOrDiscards handle descriptor) fun _ =>
            .bind (maintains.finish handle) fun _ => .pure handle
      rw [createWithin_succ]
      refine .bind (.ofUse _) fun given => .look fun world held => ?_
      cases resolve (world.moduleOf place) given with
      | error fault => exact held
      | ok resolved =>
          rw [after_bind_ok (ofExcept_ok_run resolved world)]
          exact creates _ _ _ world held

theorem create (data : Value) : Keeps holds (create host place data) :=
  maintains.createWithin _ data

end Host.Maintains

namespace Host.Upholds

open World

variable {host : Host V} {place : Nat} {holds : World V → Prop}

theorem maintains (upholds : host.Upholds place holds) : host.Maintains place holds where
  toMaintained := upholds.maintained
  enter kind descriptor verbs hub :=
    .bind (upholds.construct kind descriptor verbs hub) fun handle =>
      .bind (upholds.addObject handle) fun _ => .pure handle
  hook := upholds.hook

end Host.Upholds

end CommandHost
