import CommandHost.Proofs.Object.Clearance
import Mathlib.Data.Finset.Card
import Mathlib.Order.Interval.Finset.Nat

/-!
# Disposing where objects hang about freely

An object can stand on the lists of several others, and more than once on one list: the
objects form a forest no longer.  As long as no object is below itself, a disposal still
comes to an end, and it disposes the object and what is below it, and nothing else.

The proof is by induction on the depth to which the disposal reaches.  A finite set that
holds all that is below an object bounds this depth: the set for a child can do without
the object itself.
-/

namespace CommandHost

variable {V : Vocabulary}

namespace Scene

/-- An object is retired, and stands once less on the list of the parent that it has. -/
theorem retire_node (scene : Scene) (handle other : Nat) :
    (scene.retire handle).node other =
      if other = handle then (scene.node handle).retired
      else if scene.parentOf handle = some other then
        { scene.node other with children := (scene.childrenOf other).erase handle }
      else scene.node other := by
  unfold retire detach
  by_cases isHandle : other = handle
  · subst isHandle
    cases scene.parentOf other with
    | none => simp [modify]
    | some parent =>
        by_cases isParent : other = parent
        · simp [modify, Node.retired, isParent]
        · simp [modify, isParent]
  · cases scene.parentOf handle with
    | none => simp [modify, isHandle]
    | some parent =>
        by_cases isParent : other = parent
        · subst isParent
          simp [modify, isHandle, childrenOf]
        · simp [modify, isHandle, isParent, Ne.symm isParent]

end Scene

namespace World

variable {world middle later : World V} {gone gone' : Nat → Prop} {handle : Nat}

/-- Objects are only linked to objects that are there. -/
structure Linked (world : World V) : Prop where
  parent_lt : ∀ handle parent, (world.object handle).parent = some parent →
    parent < world.objects.size
  child_lt : ∀ handle, ∀ child ∈ (world.object handle).children, child < world.objects.size

/-- No object is below itself. -/
def Acyclic (world : World V) : Prop :=
  ∀ parent, ∀ child ∈ (world.object parent).children, ¬ world.Under child parent

/-- Some objects were disposed, and were taken off the lists of others at most. -/
structure Felled (gone : Nat → Prop) (world later : World V) : Prop where
  size_eq : later.objects.size = world.objects.size
  disposed_iff : ∀ handle, (later.object handle).disposed = true ↔
    (world.object handle).disposed = true ∨ gone handle
  parent_before : ∀ handle parent, (later.object handle).parent = some parent →
    (world.object handle).parent = some parent
  child_before : ∀ parent, ∀ child ∈ (later.object parent).children,
    child ∈ (world.object parent).children ∧ ¬ gone parent
  child_stays : ∀ parent, ∀ child ∈ (world.object parent).children,
    ¬ gone parent → ¬ gone child → child ∈ (later.object parent).children

namespace Felled

theorem refl (world : World V) : Felled (fun _ => False) world world :=
  ⟨rfl, by simp, fun _ _ => id, fun _ _ member => ⟨member, id⟩, fun _ _ member _ _ => member⟩

theorem congr (felled : Felled gone world later) (same : ∀ handle, gone handle ↔ gone' handle) :
    Felled gone' world later := by
  rwa [funext fun handle => propext (same handle)] at felled

theorem trans (first : Felled gone world middle) (second : Felled gone' middle later) :
    Felled (fun handle => gone handle ∨ gone' handle) world later where
  size_eq := second.size_eq.trans first.size_eq
  disposed_iff handle := by rw [second.disposed_iff, first.disposed_iff, or_assoc]
  parent_before handle parent below :=
    first.parent_before handle parent (second.parent_before handle parent below)
  child_before parent child member := by
    obtain ⟨before, stays⟩ := second.child_before parent child member
    obtain ⟨member, staysFirst⟩ := first.child_before parent child before
    exact ⟨member, not_or.mpr ⟨staysFirst, stays⟩⟩
  child_stays parent child member parentStays childStays := by
    obtain ⟨parentFirst, parentSecond⟩ := not_or.mp parentStays
    obtain ⟨childFirst, childSecond⟩ := not_or.mp childStays
    exact second.child_stays parent child
      (first.child_stays parent child member parentFirst childFirst) parentSecond childSecond

theorem linked (felled : Felled gone world later) (linked : world.Linked) : later.Linked where
  parent_lt handle parent below :=
    felled.size_eq ▸ linked.parent_lt handle parent (felled.parent_before handle parent below)
  child_lt handle child member :=
    felled.size_eq ▸ linked.child_lt handle child (felled.child_before handle child member).1

theorem under_before (felled : Felled gone world later) {top : Nat}
    (under : later.Under top handle) : world.Under top handle :=
  Relation.ReflTransGen.mono
    (fun parent child member => (felled.child_before parent child member).1) _ _ under

theorem acyclic (felled : Felled gone world later) (acyclic : world.Acyclic) :
    later.Acyclic := by
  intro parent child member under
  exact acyclic parent child (felled.child_before parent child member).1
    (felled.under_before under)

/-- Where all that is below disposed objects is disposed as well, what was below an object
and stays is still below it. -/
theorem under_or (felled : Felled gone world later)
    (closed : ∀ parent, ∀ child ∈ (world.object parent).children, gone parent → gone child)
    {top : Nat} (under : world.Under top handle) : gone handle ∨ later.Under top handle := by
  induction under with
  | refl => exact .inr .refl
  | @tail parent child _ member inductionHypothesis =>
      rcases inductionHypothesis with parentGone | parentUnder
      · exact .inl (closed parent child member parentGone)
      · by_cases childGone : gone child
        · exact .inl childGone
        · by_cases parentGone : gone parent
          · exact .inl (closed parent child member parentGone)
          · exact .inr (.tail parentUnder
              (felled.child_stays parent child member parentGone childGone))

end Felled

theorem under_closed (top : Nat) :
    ∀ parent, ∀ child ∈ (world.object parent).children,
      world.Under top parent → world.Under top child :=
  fun _ _ member under => .tail under member

/-- One object was disposed, and was taken off the list of the parent that it had. -/
structure Retires (handle : Nat) (world later : World V) : Prop where
  size_eq : later.objects.size = world.objects.size
  disposed_eq : ∀ other, (later.object other).disposed =
    if other = handle then true else (world.object other).disposed
  parent_eq : ∀ other, (later.object other).parent =
    if other = handle then none else (world.object other).parent
  children_eq : ∀ other, (later.object other).children =
    if other = handle then []
    else if (world.object handle).parent = some other then
      (world.object other).children.erase handle
    else (world.object other).children

theorem retire_retires (linked : world.Linked) (there : handle < world.objects.size) :
    ∃ later, (retire handle).run world = .ok () later ∧ Retires handle world later := by
  obtain ⟨later, ran, scene_eq⟩ := retire_scene 0 there (linked.parent_lt handle)
  have node_eq (other : Nat) : (later.object other).node = _ :=
    (congrArg (fun scene => scene.node other) scene_eq).trans (Scene.retire_node ..)
  refine ⟨later, ran, ?_, fun other => ?_, fun other => ?_, fun other => ?_⟩
  · exact (congrArg Scene.count scene_eq).trans (Scene.detach_count _ handle)
  · refine (congrArg Node.disposed (node_eq other)).trans ?_
    rw [apply_ite Node.disposed, apply_ite Node.disposed, ite_self]
    rfl
  · refine (congrArg Node.parent (node_eq other)).trans ?_
    rw [apply_ite Node.parent, apply_ite Node.parent, ite_self]
    rfl
  · refine (congrArg Node.children (node_eq other)).trans ?_
    rw [apply_ite Node.children, apply_ite Node.children]
    rfl

theorem Retires.felled (retires : Retires handle world later) :
    Felled (· = handle) world later := by
  refine ⟨retires.size_eq, fun other => ?_, fun other parent below => ?_,
    fun parent child member => ?_, fun parent child member parentStays childStays => ?_⟩
  · rw [retires.disposed_eq]
    by_cases isHandle : other = handle
    · simp [isHandle]
    · simp [isHandle]
  · rw [retires.parent_eq] at below
    split at below
    · cases below
    · exact below
  · rw [retires.children_eq] at member
    by_cases isHandle : parent = handle
    · simp [isHandle] at member
    · rw [if_neg isHandle] at member
      refine ⟨?_, isHandle⟩
      split at member
      · exact List.mem_of_mem_erase member
      · exact member
  · rw [retires.children_eq, if_neg parentStays]
    split
    · exact (List.mem_erase_of_ne childStays).mpr member
    · exact member

/-- What is below an object lies in a finite set, which bounds how far down it reaches. -/
def ReachesWithin (world : World V) (depth : Nat) (handle : Nat) : Prop :=
  ∃ within : Finset Nat, (∀ other, world.Under handle other → other ∈ within) ∧
    within.card ≤ depth

theorem ReachesWithin.child {depth : Nat} (reaches : world.ReachesWithin (depth + 1) handle)
    (acyclic : world.Acyclic) {child : Nat} (member : child ∈ (world.object handle).children) :
    world.ReachesWithin depth child := by
  obtain ⟨within, covers, bounded⟩ := reaches
  refine ⟨within.erase handle, fun other under => ?_, ?_⟩
  · refine Finset.mem_erase.mpr ⟨?_, covers other (.head member under)⟩
    rintro rfl
    exact acyclic other child member under
  · have inside := covers handle .refl
    rw [Finset.card_erase_of_mem inside]
    omega

/-- What a disposal down to a depth does to an object that does not reach further. -/
def FellsWithin (V : Vocabulary) (depth : Nat) : Prop :=
  ∀ (world : World V) (handle : Nat), world.Linked → world.Acyclic →
    handle < world.objects.size → world.ReachesWithin depth handle →
      ∃ later, (disposeWithin depth handle).run world = .ok () later ∧
        Felled (world.Under handle) world later

theorem forM_disposeWithin_fells {depth : Nat} (fells : FellsWithin V depth)
    (handles : List Nat) {world : World V} (linked : world.Linked) (acyclic : world.Acyclic)
    (there : ∀ handle ∈ handles, handle < world.objects.size)
    (reaches : ∀ handle ∈ handles, world.ReachesWithin depth handle) :
    ∃ later, (handles.forM (disposeWithin depth)).run world = .ok () later ∧
      Felled (fun other => ∃ handle ∈ handles, world.Under handle other) world later := by
  induction handles generalizing world with
  | nil => exact ⟨world, rfl, (Felled.refl world).congr (by simp)⟩
  | cons handle rest inductionHypothesis =>
      obtain ⟨middle, ranFirst, felledFirst⟩ :=
        fells world handle linked acyclic (there handle List.mem_cons_self)
          (reaches handle List.mem_cons_self)
      obtain ⟨later, ranRest, felledRest⟩ :=
        inductionHypothesis (felledFirst.linked linked) (felledFirst.acyclic acyclic)
          (fun other member =>
            felledFirst.size_eq ▸ there other (List.mem_cons_of_mem handle member))
          (fun other member => by
            obtain ⟨within, covers, bounded⟩ := reaches other (List.mem_cons_of_mem handle member)
            exact ⟨within, fun under isUnder => covers under (felledFirst.under_before isUnder),
              bounded⟩)
      refine ⟨later, (run_bind_ok ranFirst).trans ranRest,
        (felledFirst.trans felledRest).congr fun other => ?_⟩
      constructor
      · rintro (first | ⟨top, member, under⟩)
        · exact ⟨handle, List.mem_cons_self, first⟩
        · exact ⟨top, List.mem_cons_of_mem handle member, felledFirst.under_before under⟩
      · rintro ⟨top, member, under⟩
        -- What two children share is gone when the second one is disposed.
        rcases List.mem_cons.mp member with rfl | later
        · exact .inl under
        · exact (felledFirst.under_or (under_closed handle) under).imp_right fun still =>
            ⟨top, later, still⟩

theorem fellsWithin (depth : Nat) : FellsWithin V depth := by
  induction depth with
  | zero =>
      -- An object is below itself, so that no empty set covers what is below it.
      rintro world handle - - - ⟨within, covers, bounded⟩
      have inside := covers handle .refl
      rw [Finset.card_eq_zero.mp (Nat.le_zero.mp bounded)] at inside
      cases inside
  | succ depth inductionHypothesis =>
      intro world handle linked acyclic there reaches
      obtain ⟨middle, ranChildren, felledChildren⟩ :=
        forM_disposeWithin_fells inductionHypothesis (world.object handle).children linked
          acyclic (linked.child_lt handle) fun child member => reaches.child acyclic member
      obtain ⟨later, ranRetire, retires⟩ :=
        retire_retires (felledChildren.linked linked)
          (felledChildren.size_eq ▸ there : handle < middle.objects.size)
      refine ⟨later, ?_, (felledChildren.trans retires.felled).congr fun other => ?_⟩
      · rw [disposeWithin, run_bind_ok (EStateM.run_get world)]
        exact (run_bind_ok ranChildren).trans ranRetire
      · rw [Under, Relation.ReflTransGen.cases_head_iff, or_comm, eq_comm]
        rfl

/-- Disposing an object disposes what is below it, and it does not fail. -/
theorem dispose_fells (linked : world.Linked) (acyclic : world.Acyclic)
    (there : handle < world.objects.size) :
    ∃ later, (dispose handle).run world = .ok () later ∧
      Felled (world.Under handle) world later := by
  have inside (other : Nat) (under : world.Under handle other) :
      other ∈ Finset.range world.objects.size := by
    rcases Relation.ReflTransGen.cases_tail under with isHandle | ⟨parent, -, member⟩
    · exact Finset.mem_range.mpr (isHandle ▸ there)
    · exact Finset.mem_range.mpr (linked.child_lt parent other member)
  have reaches : world.ReachesWithin world.depthBound handle :=
    ⟨Finset.range world.objects.size, inside, by rw [Finset.card_range]; exact Nat.le_succ _⟩
  obtain ⟨later, ran, felled⟩ := fellsWithin world.depthBound world handle linked acyclic there
    reaches
  exact ⟨later, (run_bind_ok (EStateM.run_get world)).trans ran, felled⟩

end World

end CommandHost
