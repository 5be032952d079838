import CommandHost.Proofs.Object.Scene
import Mathlib.Logic.Relation
import Mathlib.Order.Nat
import Mathlib.Tactic.ByContra

/-!
# Trees of objects

From some place on the objects of a scene form a forest: each one stands exactly once
among the children of its parent, parents come before their children, and disposed
objects are not linked.  Since parents come first, no object is below itself, and going
down a tree ends.

Disposing an object is one function on scenes, which retires a list of objects: those
below it.  The proof follows the depth to which the disposal reaches, and for the
children of an object their list.
-/

namespace CommandHost

variable {V : Vocabulary}

namespace Scene

/-- An object stands at or below another one. -/
def Below (scene : Scene) (top : Nat) : Nat → Prop :=
  Relation.ReflTransGen (fun parent child => scene.parentOf child = some parent) top

/-- From a place on, the objects form a forest. -/
structure Forest (base : Nat) (scene : Scene) : Prop where
  mem_children_iff : ∀ parent child, base ≤ parent ∨ base ≤ child →
    (child ∈ scene.childrenOf parent ↔ scene.parentOf child = some parent)
  lt_of_mem : ∀ parent child, base ≤ parent → child ∈ scene.childrenOf parent →
    parent < child
  le_parent : ∀ parent child, base ≤ child → scene.parentOf child = some parent →
    base ≤ parent
  children_nodup : ∀ parent, base ≤ parent → (scene.childrenOf parent).Nodup
  disposed_isAlone : ∀ handle, base ≤ handle → (scene.node handle).disposed = true →
    (scene.node handle).IsAlone
  absent_isAlone : ∀ handle, scene.count ≤ handle → (scene.node handle).IsAlone

/-- The scene after a list of objects was disposed. -/
def retireAll (scene : Scene) (gone : List Nat) : Scene :=
  { scene with
    node := fun handle =>
      if handle ∈ gone then (scene.node handle).retired
      else (scene.node handle).without gone }

variable {scene : Scene} {base : Nat} {gone : List Nat}

namespace Forest

variable {parent child top handle : Nat}

theorem lt_of_parent (forest : scene.Forest base) (new : base ≤ child)
    (below : scene.parentOf child = some parent) : parent < child := by
  have member : child ∈ scene.childrenOf parent :=
    (forest.mem_children_iff parent child (.inr new)).mpr below
  exact forest.lt_of_mem parent child (forest.le_parent parent child new below) member

/-- An object that has a parent is there. -/
theorem lt_count (forest : scene.Forest base)
    (below : scene.parentOf child = some parent) : child < scene.count := by
  by_contra absent
  have alone := forest.absent_isAlone child (Nat.not_lt.mp absent)
  rw [parentOf, alone.1] at below
  cases below

/-- The children of a new object are new. -/
theorem le_child (forest : scene.Forest base) (new : base ≤ parent)
    (below : scene.parentOf child = some parent) : base ≤ child := by
  have member : child ∈ scene.childrenOf parent :=
    (forest.mem_children_iff parent child (.inl new)).mpr below
  exact new.trans (forest.lt_of_mem parent child new member).le

theorem le_of_below (forest : scene.Forest base) (new : base ≤ top)
    (below : scene.Below top handle) : top ≤ handle := by
  induction below with
  | refl => exact Nat.le_refl top
  | tail _ step inductionHypothesis =>
      have newChild := forest.le_child (new.trans inductionHypothesis) step
      exact inductionHypothesis.trans (forest.lt_of_parent newChild step).le

/-- What is below an object is the object itself or below one of its children. -/
theorem below_iff (forest : scene.Forest base) (new : base ≤ top) :
    scene.Below top handle ↔
      handle = top ∨ ∃ child ∈ scene.childrenOf top, scene.Below child handle := by
  rw [Below, Relation.ReflTransGen.cases_head_iff, eq_comm]
  refine or_congr_right (exists_congr fun child => and_congr_left fun _ => ?_)
  exact (forest.mem_children_iff top child (.inl new)).symm

/-- Objects that are not linked form a forest, if nothing else is linked to them. -/
theorem of_unlinked (base_le : base ≤ scene.count)
    (alone : ∀ handle, base ≤ handle → (scene.node handle).IsAlone)
    (parent_lt : ∀ parent child, scene.parentOf child = some parent → parent < base)
    (child_lt : ∀ parent child, child ∈ scene.childrenOf parent → child < base) :
    scene.Forest base := by
  have noParent (parent child : Nat) (new : base ≤ child) :
      scene.parentOf child ≠ some parent := by
    rw [parentOf, (alone child new).1]
    exact (Option.some_ne_none parent).symm
  have noChild (parent child : Nat) (new : base ≤ parent) :
      child ∉ scene.childrenOf parent := by
    rw [childrenOf, (alone parent new).2]
    exact List.not_mem_nil
  constructor
  · rintro parent child (new | new)
    · refine iff_of_false (noChild parent child new) fun below => ?_
      exact absurd (parent_lt parent child below) (Nat.not_lt.mpr new)
    · refine iff_of_false (fun member => ?_) (noParent parent child new)
      exact absurd (child_lt parent child member) (Nat.not_lt.mpr new)
  · intro parent child new member
    exact absurd member (noChild parent child new)
  · intro parent child new below
    exact absurd below (noParent parent child new)
  · intro parent new
    rw [childrenOf, (alone parent new).2]
    exact List.nodup_nil
  · intro handle new _
    exact alone handle new
  · intro handle absent
    exact alone handle (base_le.trans absent)

/-- Objects that are linked neither before nor after a change do not matter. -/
theorem transfer {later : Scene} (forest : scene.Forest base)
    (count_le : scene.count ≤ later.count)
    (nodes : ∀ handle, later.node handle = scene.node handle ∨
      (later.node handle).IsAlone ∧ (scene.node handle).IsAlone) : later.Forest base := by
  have parents (handle : Nat) : later.parentOf handle = scene.parentOf handle := by
    rcases nodes handle with same | ⟨now, before⟩
    · exact congrArg Node.parent same
    · exact now.1.trans before.1.symm
  have children (handle : Nat) : later.childrenOf handle = scene.childrenOf handle := by
    rcases nodes handle with same | ⟨now, before⟩
    · exact congrArg Node.children same
    · exact now.2.trans before.2.symm
  constructor
  · intro parent child new
    rw [parents, children]
    exact forest.mem_children_iff parent child new
  · intro parent child new member
    rw [children] at member
    exact forest.lt_of_mem parent child new member
  · intro parent child new below
    rw [parents] at below
    exact forest.le_parent parent child new below
  · intro parent new
    rw [children]
    exact forest.children_nodup parent new
  · intro handle new disposed
    rcases nodes handle with same | ⟨now, _⟩
    · rw [same] at disposed ⊢
      exact forest.disposed_isAlone handle new disposed
    · exact now
  · intro handle absent
    rcases nodes handle with same | ⟨now, _⟩
    · rw [same]
      exact forest.absent_isAlone handle (count_le.trans absent)
    · exact now

end Forest

/-! ## Retiring objects -/

theorem retireAll_append (scene : Scene) (first second : List Nat) :
    (scene.retireAll first).retireAll second = scene.retireAll (first ++ second) := by
  unfold retireAll
  simp only [Scene.mk.injEq, true_and, and_true]
  funext handle
  by_cases inFirst : handle ∈ first
  · by_cases inSecond : handle ∈ second
    · simp [inFirst, inSecond, Node.retired]
    · simp [inFirst, inSecond, Node.retired, Node.without]
  · by_cases inSecond : handle ∈ second
    · simp [inFirst, inSecond, Node.retired, Node.without]
    · simp [inFirst, inSecond, Node.without, List.filter_filter, Bool.and_comm]

/-- Disposing a single object takes it off the one list on which it can stand. -/
theorem Forest.retire_eq (forest : scene.Forest base) {handle : Nat} (new : base ≤ handle) :
    scene.retire handle = scene.retireAll [handle] := by
  have stranger (other : Nat) (notParent : scene.parentOf handle ≠ some other) :
      (scene.node other).without [handle] = scene.node other := by
    refine Node.without_eq_self fun child member => ?_
    simp only [List.mem_singleton]
    rintro rfl
    exact notParent ((forest.mem_children_iff other child (.inr new)).mp member)
  unfold retire detach retireAll modify
  cases below : scene.parentOf handle with
  | none =>
      simp only [Scene.mk.injEq, true_and, and_true]
      funext other
      by_cases same : other = handle
      · simp [same]
      · simp [same, stranger other (by simp [below])]
  | some parent =>
      simp only [Scene.mk.injEq, true_and, and_true]
      funext other
      by_cases same : other = handle
      · by_cases isParent : other = parent
        · simp [← same, ← isParent, Node.retired]
        · simp [same, same ▸ isParent]
      · by_cases isParent : other = parent
        · have distinct : (scene.node other).children.Nodup :=
            forest.children_nodup other
              (isParent ▸ forest.le_parent parent handle new below)
          have erased : (scene.node other).children.erase handle =
              (scene.node other).children.filter (· ∉ [handle]) := by
            rw [distinct.erase_eq_filter]
            refine List.filter_congr fun child _ => ?_
            simp [bne, Bool.beq_eq_decide_eq]
          subst isParent
          simp [same, Node.without, erased]
        · have notParent : scene.parentOf handle ≠ some other := by
            rw [below]
            exact fun equal => isParent (Option.some.inj equal).symm
          simp [same, isParent, stranger other notParent]

/-- With every object all its children are retired. -/
def IsClosed (scene : Scene) (gone : List Nat) : Prop :=
  ∀ parent child, parent ∈ gone → scene.parentOf child = some parent → child ∈ gone

theorem isClosed_of_below (tops : List Nat)
    (isBelow : ∀ handle, handle ∈ gone ↔ ∃ top ∈ tops, scene.Below top handle) :
    scene.IsClosed gone := by
  intro parent child member below
  obtain ⟨top, isTop, reaches⟩ := (isBelow parent).mp member
  exact (isBelow child).mpr ⟨top, isTop, reaches.tail below⟩

theorem retireAll_node (scene : Scene) (gone : List Nat) (handle : Nat) :
    (scene.retireAll gone).node handle =
      { scene.node handle with
        parent := if handle ∈ gone then none else scene.parentOf handle
        children :=
          if handle ∈ gone then [] else (scene.childrenOf handle).filter (· ∉ gone)
        disposed := decide (handle ∈ gone) || (scene.node handle).disposed } := by
  unfold retireAll
  by_cases member : handle ∈ gone
  · simp [member, Node.retired]
  · simp [member, Node.without, parentOf, childrenOf]

theorem parentOf_retireAll (scene : Scene) (gone : List Nat) (handle : Nat) :
    (scene.retireAll gone).parentOf handle =
      if handle ∈ gone then none else scene.parentOf handle := by
  rw [parentOf, retireAll_node]

theorem childrenOf_retireAll (scene : Scene) (gone : List Nat) (handle : Nat) :
    (scene.retireAll gone).childrenOf handle =
      if handle ∈ gone then [] else (scene.childrenOf handle).filter (· ∉ gone) := by
  rw [childrenOf, retireAll_node]

theorem retireAll_id (scene : Scene) (gone : List Nat) (handle : Nat) :
    ((scene.retireAll gone).node handle).id = (scene.node handle).id := by
  rw [retireAll_node]

theorem retireAll_listens (scene : Scene) (gone : List Nat) (handle : Nat) :
    ((scene.retireAll gone).node handle).listens = (scene.node handle).listens := by
  rw [retireAll_node]

theorem retireAll_disposed (scene : Scene) (gone : List Nat) (handle : Nat) :
    ((scene.retireAll gone).node handle).disposed =
      (decide (handle ∈ gone) || (scene.node handle).disposed) := by
  rw [retireAll_node]

theorem Forest.retireAll (forest : scene.Forest base) (closed : scene.IsClosed gone) :
    (scene.retireAll gone).Forest base where
  mem_children_iff parent child new := by
    have iff := forest.mem_children_iff parent child new
    rw [parentOf_retireAll, childrenOf_retireAll]
    by_cases parentGone : parent ∈ gone
    · have childGone := closed parent child parentGone
      by_cases member : child ∈ gone
      · simp [parentGone, member]
      · simpa [parentGone, member] using fun below => member (childGone below)
    · by_cases member : child ∈ gone
      · simp [parentGone, member]
      · simpa [parentGone, member] using iff
  lt_of_mem parent child new member := by
    rw [childrenOf_retireAll] at member
    by_cases parentGone : parent ∈ gone
    · simp [parentGone] at member
    · simp only [parentGone, if_false, List.mem_filter] at member
      exact forest.lt_of_mem parent child new member.1
  le_parent parent child new below := by
    rw [parentOf_retireAll] at below
    by_cases childGone : child ∈ gone
    · simp [childGone] at below
    · exact forest.le_parent parent child new (by simpa [childGone] using below)
  children_nodup parent new := by
    rw [childrenOf_retireAll]
    by_cases parentGone : parent ∈ gone
    · simp [parentGone]
    · rw [if_neg parentGone]
      exact (forest.children_nodup parent new).filter _
  disposed_isAlone handle new disposed := by
    by_cases member : handle ∈ gone
    · simp only [Scene.retireAll, member, if_true]
      exact Node.retired_isAlone _
    · simp only [Scene.retireAll, member, if_false] at disposed ⊢
      have alone := forest.disposed_isAlone handle new disposed
      exact ⟨alone.1, by simp [Node.without, alone.2]⟩
  absent_isAlone handle absent := by
    have alone := forest.absent_isAlone handle absent
    by_cases member : handle ∈ gone
    · simp only [Scene.retireAll, member, if_true]
      exact Node.retired_isAlone _
    · simp only [Scene.retireAll, member, if_false]
      exact ⟨alone.1, by simp [Node.without, alone.2]⟩

/-- Retiring makes nothing stand below an object that did not. -/
theorem Below.of_retireAll {top handle : Nat}
    (below : (scene.retireAll gone).Below top handle) : scene.Below top handle := by
  unfold Below at below ⊢
  refine Relation.ReflTransGen.mono (fun parent child step => ?_) _ _ below
  rw [parentOf_retireAll] at step
  by_cases member : child ∈ gone
  · simp [member] at step
  · simpa [member] using step

/-- What stood below an object still does, unless it was retired. -/
theorem Below.retireAll {top handle : Nat} (closed : scene.IsClosed gone)
    (below : scene.Below top handle) :
    handle ∈ gone ∨ (scene.retireAll gone).Below top handle := by
  induction below with
  | refl => exact .inr .refl
  | @tail parent child _ step inductionHypothesis =>
      by_cases childGone : child ∈ gone
      · exact .inl childGone
      · rcases inductionHypothesis with parentGone | reaches
        · exact absurd (closed parent child parentGone step) childGone
        · refine .inr (reaches.tail ?_)
          rw [parentOf_retireAll, if_neg childGone]
          exact step

end Scene

/-! ## Disposing a tree -/

namespace World

variable {base : Nat}

/-- Disposing an object down to a depth retires exactly what is below it, if the depth
is enough. -/
def DisposesWithin (V : Vocabulary) (base place depth : Nat) : Prop :=
  ∀ (handle : Nat) (world : World V), (world.scene place).Forest base → base ≤ handle →
    handle < world.objects.size → world.objects.size ≤ handle + depth →
      ∃ after gone,
        (disposeWithin depth handle).run world = .ok () after ∧
          after.scene place = (world.scene place).retireAll gone ∧
            ∀ other, other ∈ gone ↔ (world.scene place).Below handle other

/-- Disposing objects one after the other retires exactly what is below one of them. -/
theorem forM_disposeWithin_scene {place depth : Nat}
    (disposes : DisposesWithin V base place depth) (handles : List Nat) {world : World V}
    (forest : (world.scene place).Forest base)
    (fit : ∀ handle ∈ handles, base ≤ handle ∧ handle < world.objects.size ∧
      world.objects.size ≤ handle + depth) :
    ∃ after gone,
      (handles.forM (disposeWithin depth) : Effect V Unit).run world = .ok () after ∧
        after.scene place = (world.scene place).retireAll gone ∧
          ∀ other, other ∈ gone ↔
            ∃ handle ∈ handles, (world.scene place).Below handle other := by
  induction handles generalizing world with
  | nil =>
      have unchanged : (world.scene place).retireAll [] = world.scene place := by
        simp only [Scene.retireAll, List.not_mem_nil, if_false, Node.without_eq_self,
          not_false_eq_true, implies_true]
      exact ⟨world, [], rfl, unchanged.symm, by simp⟩
  | cons handle rest inductionHypothesis =>
      obtain ⟨new, there, deep⟩ := fit handle List.mem_cons_self
      obtain ⟨middle, gone, ran, middleScene, isBelow⟩ :=
        disposes handle world forest new there deep
      have closed : (world.scene place).IsClosed gone :=
        Scene.isClosed_of_below [handle] (by simpa using isBelow)
      have sameSize : middle.objects.size = world.objects.size :=
        congrArg Scene.count middleScene
      have middleForest : (middle.scene place).Forest base := by
        rw [middleScene]
        exact forest.retireAll closed
      obtain ⟨after, later, ranRest, afterScene, isLater⟩ :=
        inductionHypothesis middleForest fun other member => by
          rw [sameSize]
          exact fit other (List.mem_cons_of_mem handle member)
      refine ⟨after, gone ++ later, ?_, ?_, fun other => ?_⟩
      · rw [List.forM_eq_forM, List.forM_cons, run_bind_ok ran]
        exact ranRest
      · rw [afterScene, middleScene, Scene.retireAll_append]
      · rw [List.mem_append, isBelow, isLater, middleScene]
        constructor
        · rintro (below | ⟨top, isTop, below⟩)
          · exact ⟨handle, List.mem_cons_self, below⟩
          · exact ⟨top, List.mem_cons_of_mem handle isTop, below.of_retireAll⟩
        · rintro ⟨top, isTop, below⟩
          rcases List.mem_cons.mp isTop with rfl | isTop
          · exact .inl below
          · rcases below.retireAll closed with member | below
            · exact .inl ((isBelow other).mp member)
            · exact .inr ⟨top, isTop, below⟩

theorem disposesWithin (base place depth : Nat) : DisposesWithin V base place depth := by
  induction depth with
  | zero =>
      intro handle world _ _ there deep
      omega
  | succ depth inductionHypothesis =>
      intro handle world forest new there deep
      have fit : ∀ child ∈ (world.scene place).childrenOf handle,
          base ≤ child ∧ child < world.objects.size ∧
            world.objects.size ≤ child + depth := by
        intro child member
        have later := forest.lt_of_mem handle child new member
        have below := (forest.mem_children_iff handle child (.inl new)).mp member
        have childThere : child < world.objects.size := forest.lt_count below
        exact ⟨new.trans later.le, childThere, by omega⟩
      obtain ⟨middle, gone, ranChildren, middleScene, isBelow⟩ :=
        forM_disposeWithin_scene inductionHypothesis
          ((world.scene place).childrenOf handle) forest fit
      have sameSize : middle.objects.size = world.objects.size :=
        congrArg Scene.count middleScene
      have middleForest : (middle.scene place).Forest base := by
        rw [middleScene]
        exact forest.retireAll (Scene.isClosed_of_below _ isBelow)
      obtain ⟨after, ranRetire, afterScene⟩ :=
        retire_scene place (sameSize ▸ there : handle < middle.objects.size)
          fun parent below =>
            Nat.lt_trans (middleForest.lt_of_parent new below) (middleForest.lt_count below)
      refine ⟨after, gone ++ [handle], ?_, ?_, fun other => ?_⟩
      · rw [disposeWithin, run_bind_ok (EStateM.run_get world)]
        exact (run_bind_ok ranChildren).trans ranRetire
      · rw [afterScene, middleForest.retire_eq new, middleScene, Scene.retireAll_append]
      · rw [List.mem_append, List.mem_singleton, isBelow, forest.below_iff new, or_comm]

theorem dispose_scene {place handle : Nat} {world : World V}
    (forest : (world.scene place).Forest base) (new : base ≤ handle)
    (there : handle < world.objects.size) :
    ∃ after gone,
      (dispose handle : Effect V Unit).run world = .ok () after ∧
        after.scene place = (world.scene place).retireAll gone ∧
          ∀ other, other ∈ gone ↔ (world.scene place).Below handle other := by
  unfold dispose
  rw [run_bind_ok (EStateM.run_get world)]
  exact disposesWithin base place world.depthBound handle world forest new there
    (by unfold depthBound; omega)

/-! ## Listing a tree -/

/-- Lists that are found for all items are found for the list of the items. -/
theorem mapM_eq_ok (holds : Nat → Nat → Prop) (find : Nat → Except IllegalUse (List Nat))
    (items : List Nat)
    (finds : ∀ item ∈ items, ∃ found, find item = .ok found ∧
      ∀ other, other ∈ found ↔ holds item other) :
    ∃ parts, items.mapM find = .ok parts ∧
      ∀ other, other ∈ parts.flatten ↔ ∃ item ∈ items, holds item other := by
  induction items with
  | nil => exact ⟨[], rfl, by simp⟩
  | cons item rest inductionHypothesis =>
      obtain ⟨found, isFound, foundHolds⟩ := finds item List.mem_cons_self
      obtain ⟨parts, areFound, partsHold⟩ := inductionHypothesis fun other member =>
        finds other (List.mem_cons_of_mem item member)
      refine ⟨found :: parts, ?_, fun other => ?_⟩
      · rw [List.mapM_cons, isFound, areFound]
        rfl
      · simp [foundHolds, partsHold]

theorem subtreeWithin_eq_ok {place : Nat} {world : World V}
    (forest : (world.scene place).Forest base) (depth handle : Nat) (new : base ≤ handle)
    (there : handle < world.objects.size) (deep : world.objects.size ≤ handle + depth) :
    ∃ handles,
      world.subtreeWithin depth handle = .ok handles ∧
        ∀ other, other ∈ handles ↔ (world.scene place).Below handle other := by
  induction depth generalizing handle with
  | zero => omega
  | succ depth inductionHypothesis =>
      obtain ⟨parts, areFound, isBelow⟩ :=
        mapM_eq_ok (world.scene place).Below (world.subtreeWithin depth)
          ((world.scene place).childrenOf handle)
          fun child member => by
            have later := forest.lt_of_mem handle child new member
            have below := (forest.mem_children_iff handle child (.inl new)).mp member
            exact inductionHypothesis child (new.trans later.le) (forest.lt_count below)
              (by omega)
      refine ⟨handle :: parts.flatten, ?_, fun other => ?_⟩
      · have children :
            (world.object handle).children = (world.scene place).childrenOf handle := rfl
        rw [subtreeWithin, children, areFound]
        rfl
      · rw [List.mem_cons, isBelow, forest.below_iff new]

theorem subtree_eq_ok {place handle : Nat} {world : World V}
    (forest : (world.scene place).Forest base) (new : base ≤ handle)
    (there : handle < world.objects.size) :
    ∃ handles,
      world.subtree handle = .ok handles ∧
        ∀ other, other ∈ handles ↔ (world.scene place).Below handle other :=
  subtreeWithin_eq_ok forest world.depthBound handle new there
    (by unfold depthBound; omega)

end World

end CommandHost
