import CommandHost.Proofs.Object.Disposal
import CommandHost.Scenario.Host

/-!
# Objects that are hung up more than once

Hanging an object below another one does not take it off the list on which it stands, and
disposing an object takes it off one list only, once.  `Accounted` counts: how often an
object stands on a list is how often it was hung there, less the one time that its
disposal took back.  So a disposed object is left behind on the list of an object in use
exactly if it was hung there and then hung up again, there or elsewhere.
-/

namespace CommandHost

variable {V : Vocabulary}

/-- What is done to the trees of objects. -/
inductive TreeDeed where
  | append (parent child : Nat)
  | dispose (handle : Nat)
  deriving DecidableEq

namespace TreeDeed

/-- The step of the program. -/
def act : TreeDeed → Effect V Unit
  | append parent child => World.append parent child
  | dispose handle => World.dispose handle

/-- The parent that an object gets. -/
def parentFor? : TreeDeed → Nat → Option Nat
  | append parent child, handle => if child = handle then some parent else none
  | dispose _, _ => none

/-- The parent below which an object was hung last. -/
def lastParent? (deeds : List TreeDeed) (child : Nat) : Option Nat :=
  deeds.reverse.findSome? (parentFor? · child)

/-- An object was hung below a parent, and later hung up again. -/
def HungAgain (deeds : List TreeDeed) (parent child : Nat) : Prop :=
  ∃ other, [append parent child, append other child].Sublist deeds

variable {deeds : List TreeDeed} {deed : TreeDeed} {parent child : Nat}

theorem lastParent?_append :
    lastParent? (deeds ++ [deed]) child =
      (deed.parentFor? child).or (lastParent? deeds child) := by
  rw [lastParent?, List.reverse_append, List.reverse_singleton, List.singleton_append,
    List.findSome?_cons]
  cases deed.parentFor? child <;> rfl

theorem mem_of_lastParent? (last : lastParent? deeds child = some parent) :
    append parent child ∈ deeds := by
  obtain ⟨deed, member, isParent⟩ := List.exists_of_findSome?_eq_some last
  cases deed with
  | dispose handle => cases isParent
  | append given hung =>
      obtain ⟨rfl, rfl⟩ : hung = child ∧ given = parent := by
        simpa [parentFor?] using isParent
      exact List.mem_reverse.mp member

theorem hungAgain_append :
    HungAgain (deeds ++ [deed]) parent child ↔
      HungAgain deeds parent child ∨
        append parent child ∈ deeds ∧ ∃ other, deed = append other child := by
  constructor
  · rintro ⟨other, inOrder⟩
    obtain ⟨front, back, pair_eq, inDeeds, atEnd⟩ := List.sublist_append_iff.mp inOrder
    rcases List.sublist_singleton.mp atEnd with rfl | rfl
    · rw [List.append_nil] at pair_eq
      exact .inl ⟨other, pair_eq ▸ inDeeds⟩
    · have split_eq : [append parent child].concat (append other child) = front.concat deed := by
        rw [List.concat_eq_append, List.concat_eq_append, ← pair_eq]
        rfl
      obtain ⟨isFront, isDeed⟩ := List.concat_inj.mp split_eq
      exact .inr ⟨List.singleton_sublist.mp (isFront ▸ inDeeds), other, isDeed.symm⟩
  · rintro (⟨other, inOrder⟩ | ⟨member, other, rfl⟩)
    · exact ⟨other, inOrder.trans (List.sublist_append_left deeds [deed])⟩
    · exact ⟨other, (List.singleton_sublist.mpr member).append (List.Sublist.refl _)⟩

/-- Counted without the last time, an object was hung below a parent that it was hung below
and then hung up again. -/
theorem hungAgain_iff :
    HungAgain deeds parent child ↔
      0 < deeds.count (append parent child) -
        if lastParent? deeds child = some parent then 1 else 0 := by
  induction deeds using List.reverseRecOn with
  | nil => simp [HungAgain]
  | append_singleton deeds deed inductionHypothesis =>
      rw [hungAgain_append, inductionHypothesis, lastParent?_append, List.count_append,
        List.count_singleton, ← List.count_pos_iff]
      have last_counts : lastParent? deeds child = some parent →
          0 < deeds.count (append parent child) :=
        fun last => List.count_pos_iff.mpr (mem_of_lastParent? last)
      generalize deeds.count (append parent child) = times at last_counts ⊢
      generalize lastParent? deeds child = last at last_counts ⊢
      cases deed with
      | dispose handle =>
          by_cases isLast : last = some parent
          · simp [parentFor?, isLast]
          · simp [parentFor?, isLast]
      | append given hung =>
          have counted : (0 < times - if last = some parent then 1 else 0) → 0 < times :=
            fun positive => positive.trans_le (Nat.sub_le _ _)
          by_cases isChild : hung = child
          · by_cases isParent : given = parent
            · simpa [parentFor?, isChild, isParent] using counted
            · simpa [parentFor?, isChild, isParent] using counted
          · by_cases isLast : last = some parent
            · simp [parentFor?, isChild, isLast]
            · simp [parentFor?, isChild, isLast]

end TreeDeed

open TreeDeed

namespace World

variable {world later : World V} {deeds : List TreeDeed}

/-- An object may be hung below another one if both are in use and no cycle arises.
Everything that is there may be disposed, also once more. -/
def Allows (world : World V) : TreeDeed → Prop
  | .append parent child => world.InUse parent ∧ world.InUse child ∧ ¬ world.Under child parent
  | .dispose handle => handle < world.objects.size

/-- An object is linked as it was in another world, and as much disposed. -/
def SamePlace (world later : World V) (handle : Nat) : Prop :=
  (later.object handle).parent = (world.object handle).parent ∧
    (later.object handle).children = (world.object handle).children ∧
      (later.object handle).disposed = (world.object handle).disposed

/-- Objects that are new at first are hung below one another and disposed.  In between,
objects may be built and anything may change that does not concern their links. -/
inductive Grafted : List TreeDeed → World V → Prop where
  | fresh {world : World V}
      (alone : ∀ handle, (world.object handle).node.IsAlone)
      (inUse : ∀ handle, (world.object handle).disposed = false) :
      Grafted [] world
  | did {deeds : List TreeDeed} {world : World V} {deed : TreeDeed}
      (grafted : Grafted deeds world) (allowed : world.Allows deed) :
      Grafted (deeds ++ [deed]) (after deed.act world)
  | meanwhile {deeds : List TreeDeed} {world later : World V} (grafted : Grafted deeds world)
      (more : world.objects.size ≤ later.objects.size)
      (same : ∀ handle, world.SamePlace later handle) : Grafted deeds later

/-- One object was hung below another one. -/
structure Hangs (parent child : Nat) (world later : World V) : Prop where
  size_eq : later.objects.size = world.objects.size
  disposed_eq : ∀ handle, (later.object handle).disposed = (world.object handle).disposed
  parent_eq : ∀ handle, (later.object handle).parent =
    if handle = child then some parent else (world.object handle).parent
  children_eq : ∀ handle, (later.object handle).children =
    (world.object handle).children ++ if handle = parent then [child] else []

theorem append_hangs {parent child : Nat} (parentThere : parent < world.objects.size)
    (childThere : child < world.objects.size) :
    Hangs parent child world (after (append parent child) world) := by
  obtain ⟨later, ran, scene_eq⟩ := append_scene 0 parentThere childThere
  have node_eq (handle : Nat) : (later.object handle).node = _ :=
    (congrArg (fun scene => scene.node handle) scene_eq).trans (Scene.append_node ..)
  rw [after_of_ok ran]
  exact ⟨congrArg Scene.count scene_eq, fun handle => congrArg Node.disposed (node_eq handle),
    fun handle => congrArg Node.parent (node_eq handle),
    fun handle => congrArg Node.children (node_eq handle)⟩

/-! ## How often an object stands on a list -/

/-- The lists of children and the parents tell what was done, apart from what disposals took
back. -/
structure Accounted (deeds : List TreeDeed) (world : World V) : Prop where
  there : ∀ parent child, .append parent child ∈ deeds →
    parent < world.objects.size ∧ child < world.objects.size
  parent_eq : ∀ child, (world.object child).parent =
    if (world.object child).disposed = true then none else lastParent? deeds child
  count_eq : ∀ parent child, (world.object parent).children.count child =
    if (world.object parent).disposed = true then 0
    else deeds.count (.append parent child) -
      if (world.object child).disposed = true ∧ lastParent? deeds child = some parent then 1
      else 0

namespace Accounted

theorem linked (accounted : Accounted deeds world) : world.Linked where
  parent_lt handle parent below := by
    rw [accounted.parent_eq] at below
    split at below
    · cases below
    · exact (accounted.there parent handle (mem_of_lastParent? below)).1
  child_lt parent child member := by
    have counted := List.count_pos_iff.mpr member
    rw [accounted.count_eq] at counted
    split at counted
    · cases counted
    · exact (accounted.there parent child (List.count_pos_iff.mp (by omega))).2

/-- The disposed objects on the list of an object in use are those that were hung there and
later hung up again. -/
theorem mem_children_iff (accounted : Accounted deeds world) {parent child : Nat}
    (disposed : (world.object child).disposed = true) :
    child ∈ (world.object parent).children ↔
      (world.object parent).disposed = false ∧ HungAgain deeds parent child := by
  rw [← List.count_pos_iff, accounted.count_eq, hungAgain_iff]
  cases (world.object parent).disposed with
  | true => simp
  | false => simp [disposed]

theorem append {parent child : Nat} (accounted : Accounted deeds world)
    (hangs : Hangs parent child world later) (parentInUse : world.InUse parent)
    (childInUse : world.InUse child) :
    Accounted (deeds ++ [.append parent child]) later := by
  refine ⟨fun upper lower member => ?_, fun handle => ?_, fun upper lower => ?_⟩
  · rw [hangs.size_eq]
    rcases List.mem_append.mp member with before | isNew
    · exact accounted.there upper lower before
    · cases List.mem_singleton.mp isNew
      exact ⟨parentInUse.1, childInUse.1⟩
  · rw [hangs.parent_eq, hangs.disposed_eq, accounted.parent_eq, lastParent?_append]
    by_cases isChild : handle = child
    · simp [isChild, childInUse.2, parentFor?]
    · simp [isChild, Ne.symm isChild, parentFor?]
  · rw [hangs.children_eq, hangs.disposed_eq, hangs.disposed_eq, List.count_append,
      accounted.count_eq, lastParent?_append, List.count_append]
    by_cases isChild : lower = child
    · subst isChild
      by_cases isParent : upper = parent
      · simp [isParent, parentInUse.2, childInUse.2]
      · simp [isParent, Ne.symm isParent, childInUse.2]
    · by_cases isParent : upper = parent
      · simp [isParent, Ne.symm isChild, parentFor?]
      · simp [isParent, Ne.symm isChild, parentFor?]

theorem retire {handle : Nat} (accounted : Accounted deeds world)
    (retires : Retires handle world later) : Accounted deeds later where
  there parent child member := retires.size_eq ▸ accounted.there parent child member
  parent_eq child := by
    rw [retires.parent_eq, retires.disposed_eq]
    by_cases isHandle : child = handle
    · simp [isHandle]
    · simp [isHandle, accounted.parent_eq]
  count_eq parent child := by
    rw [retires.children_eq, retires.disposed_eq, retires.disposed_eq]
    have before := accounted.count_eq parent child
    have parent_eq := accounted.parent_eq handle
    by_cases parentGoes : parent = handle
    · simp [parentGoes]
    · rw [if_neg parentGoes, if_neg parentGoes]
      by_cases childGoes : child = handle
      · subst childGoes
        -- Only the entry that the last hanging made is taken back.
        cases disposed : (world.object child).disposed with
        | true =>
            simp only [disposed, if_true] at parent_eq before
            simp [parent_eq, before]
        | false =>
            simp only [disposed, Bool.false_eq_true, if_false, false_and] at parent_eq before
            rw [parent_eq]
            by_cases isLast : lastParent? deeds child = some parent
            · simp only [isLast, if_true, List.count_erase_self, before]
              split <;> simp
            · simp [isLast, before]
      · have same : (if (world.object handle).parent = some parent then
            (world.object parent).children.erase handle
            else (world.object parent).children).count child =
              (world.object parent).children.count child := by
          split
          · exact List.count_erase_of_ne childGoes
          · rfl
        rw [same, before, if_neg childGoes]

theorem disposeWithin_keeps (deeds : List TreeDeed) (count depth : Nat) {handle : Nat}
    (there : handle < count) :
    Keeps (fun world : World V => Accounted deeds world ∧ world.objects.size = count)
      (disposeWithin depth handle) := by
  induction depth generalizing handle with
  | zero => exact .throw _
  | succ depth inductionHypothesis =>
      apply Keeps.look
      intro world held
      have disposesChildren :
          Keeps (fun world : World V => Accounted deeds world ∧ world.objects.size = count)
            ((world.object handle).children.forM (World.disposeWithin depth)) :=
        .forM_mem fun child member =>
          inductionHypothesis (held.2 ▸ held.1.linked.child_lt handle child member)
      have retires :
          Keeps (fun world : World V => Accounted deeds world ∧ world.objects.size = count)
            (World.retire handle) := by
        rintro middle ⟨accounted, size_eq⟩
        obtain ⟨later, ran, retires⟩ :=
          retire_retires accounted.linked (size_eq ▸ there : handle < middle.objects.size)
        rw [after_of_ok ran]
        exact ⟨accounted.retire retires, retires.size_eq.trans size_eq⟩
      exact Keeps.bind disposesChildren (fun _ => retires) world held

theorem dispose {handle : Nat} (accounted : Accounted deeds world)
    (there : handle < world.objects.size) :
    Accounted (deeds ++ [.dispose handle]) (after (dispose handle) world) := by
  -- How far the disposal gets does not matter here, as each of its steps adds up.
  have kept : Accounted deeds (after (World.dispose handle) world) :=
    (disposeWithin_keeps deeds _ world.depthBound there world ⟨accounted, rfl⟩).1
  have last_eq (child : Nat) : lastParent? (deeds ++ [.dispose handle]) child =
      lastParent? deeds child := lastParent?_append
  refine ⟨fun parent child member => ?_, fun child => ?_, fun parent child => ?_⟩
  · rcases List.mem_append.mp member with before | isNew
    · exact kept.there parent child before
    · cases List.mem_singleton.mp isNew
  · rw [last_eq, kept.parent_eq]
  · rw [last_eq, kept.count_eq, List.count_append]
    simp

theorem meanwhile (accounted : Accounted deeds world)
    (more : world.objects.size ≤ later.objects.size)
    (same : ∀ handle, world.SamePlace later handle) : Accounted deeds later where
  there parent child member := by
    obtain ⟨parentThere, childThere⟩ := accounted.there parent child member
    exact ⟨parentThere.trans_le more, childThere.trans_le more⟩
  parent_eq child := by
    rw [(same child).1, (same child).2.2]
    exact accounted.parent_eq child
  count_eq parent child := by
    rw [(same parent).2.1, (same parent).2.2, (same child).2.2]
    exact accounted.count_eq parent child

end Accounted

/-! ## No object gets below itself -/

theorem Hangs.mem_children {parent child upper lower : Nat}
    (hangs : Hangs parent child world later)
    (member : lower ∈ (later.object upper).children) :
    lower ∈ (world.object upper).children ∨ upper = parent ∧ lower = child := by
  rw [hangs.children_eq, List.mem_append] at member
  refine member.imp_right fun isNew => ?_
  by_cases isParent : upper = parent
  · exact ⟨isParent, by simpa [isParent] using isNew⟩
  · simp [isParent] at isNew

theorem Hangs.under {parent child top handle : Nat} (hangs : Hangs parent child world later)
    (under : later.Under top handle) :
    world.Under top handle ∨ world.Under top parent ∧ world.Under child handle := by
  induction under with
  | refl => exact .inl .refl
  | @tail upper lower _ member inductionHypothesis =>
      rcases hangs.mem_children member with before | ⟨rfl, rfl⟩
      · exact inductionHypothesis.imp (.tail · before) (.imp_right (.tail · before))
      · rcases inductionHypothesis with under | ⟨under, -⟩
        · exact .inr ⟨under, .refl⟩
        · exact .inr ⟨under, .refl⟩

theorem Hangs.acyclic {parent child : Nat} (hangs : Hangs parent child world later)
    (acyclic : world.Acyclic) (allowed : ¬ world.Under child parent) : later.Acyclic := by
  intro upper lower member under
  rcases hangs.mem_children member with before | ⟨rfl, rfl⟩
  · rcases hangs.under under with back | ⟨toParent, fromChild⟩
    · exact acyclic upper lower before back
    · exact allowed (fromChild.trans (.head before toParent))
  · rcases hangs.under under with back | ⟨back, -⟩
    · exact allowed back
    · exact allowed back

/-- After any number of deeds the lists add up, and no object is below itself. -/
theorem Grafted.accounted (grafted : Grafted deeds world) :
    Accounted deeds world ∧ world.Acyclic := by
  induction grafted with
  | @fresh world alone inUse =>
      have noParent (handle : Nat) : (world.object handle).parent = none := (alone handle).1
      have noChildren (handle : Nat) : (world.object handle).children = [] := (alone handle).2
      refine ⟨⟨fun _ _ member => ?_, fun child => ?_, fun parent child => ?_⟩,
        fun parent child member => ?_⟩
      · cases member
      · simp [noParent, inUse, lastParent?]
      · simp [noChildren]
      · simp [noChildren] at member
  | @did deeds world deed grafted allowed inductionHypothesis =>
      obtain ⟨accounted, acyclic⟩ := inductionHypothesis
      cases deed with
      | append parent child =>
          obtain ⟨parentInUse, childInUse, noCycle⟩ := allowed
          have hangs := append_hangs parentInUse.1 childInUse.1
          exact ⟨accounted.append hangs parentInUse childInUse, hangs.acyclic acyclic noCycle⟩
      | dispose handle =>
          obtain ⟨later, ran, felled⟩ := dispose_fells accounted.linked acyclic allowed
          have accountedLater := accounted.dispose allowed
          rw [TreeDeed.act, after_of_ok ran]
          rw [after_of_ok ran] at accountedLater
          exact ⟨accountedLater, felled.acyclic acyclic⟩
  | @meanwhile deeds world later grafted more same inductionHypothesis =>
      obtain ⟨accounted, acyclic⟩ := inductionHypothesis
      have sameUnder : later.Under = world.Under := by
        funext top
        simp only [Under, (same _).2.1]
      refine ⟨accounted.meanwhile more same, fun parent child member under => ?_⟩
      rw [(same parent).2.1] at member
      rw [sameUnder] at under
      exact acyclic parent child member under

/-- No list of children holds a disposed object exactly if nothing disposed was hung below
an object in use and then hung up again.  A disposal succeeds, and disposes all that is
below an object. -/
theorem Grafted.lists_no_disposed_iff (grafted : Grafted deeds world) :
    ((∀ parent, ∀ child ∈ (world.object parent).children,
        (world.object child).disposed = false) ↔
      ∀ parent child, HungAgain deeds parent child →
        (world.object child).disposed = true → (world.object parent).disposed = true) ∧
      ∀ handle < world.objects.size, ∃ later,
        (dispose handle).run world = .ok () later ∧
          ∀ other, (later.object other).disposed = true ↔
            (world.object other).disposed = true ∨ world.Under handle other := by
  obtain ⟨accounted, acyclic⟩ := grafted.accounted
  refine ⟨⟨fun clean parent child hungAgain disposed => ?_,
    fun tidied parent child member => ?_⟩, fun handle there => ?_⟩
  · by_contra parentInUse
    have listed := (accounted.mem_children_iff disposed).mpr
      ⟨eq_false_of_ne_true parentInUse, hungAgain⟩
    rw [clean parent child listed] at disposed
    cases disposed
  · by_contra isDisposed
    have disposed : (world.object child).disposed = true := by simpa using isDisposed
    obtain ⟨parentInUse, hungAgain⟩ := (accounted.mem_children_iff disposed).mp member
    rw [tidied parent child hungAgain disposed] at parentInUse
    cases parentInUse
  · obtain ⟨later, ran, felled⟩ := dispose_fells accounted.linked acyclic there
    exact ⟨later, ran, felled.disposed_iff⟩

/-- Three new objects. -/
def orchard : World Scenario.vocabulary :=
  after
    (["a", "b", "c"].forM fun id => do
      let _ ← construct (.plain _) (Entries.ofTexts [("_id", .text id)]) [] none)
    (Scenario.startWorld .standard false)

/-- The third object is hung below the first one, then below the second one, and is
disposed. -/
def transplant : List TreeDeed := [.append 0 2, .append 1 2, .dispose 2]

/-- The orchard after that. -/
def transplanted : World Scenario.vocabulary :=
  after (dispose 2) (after (append 1 2) (after (append 0 2) orchard))

theorem not_under_of_childless {top handle : Nat} (childless : (world.object top).children = [])
    (different : top ≠ handle) : ¬ world.Under top handle := by
  intro under
  rcases Relation.ReflTransGen.cases_head under with same | ⟨child, member, -⟩
  · exact different same
  · rw [childless] at member
    cases member

theorem transplanted_grafted : Grafted transplant transplanted := by
  have small (handle : Nat) :
      (orchard.object handle).node.IsAlone ∧ (orchard.object handle).disposed = false := by
    match handle with
    | 0 | 1 | 2 => exact ⟨⟨by decide +kernel, by decide +kernel⟩, by decide +kernel⟩
    | _ + 3 => exact ⟨⟨rfl, rfl⟩, rfl⟩
  have fresh : Grafted [] orchard :=
    .fresh (fun handle => (small handle).1) fun handle => (small handle).2
  have first : orchard.Allows (.append 0 2) :=
    ⟨⟨by decide +kernel, by decide +kernel⟩, ⟨by decide +kernel, by decide +kernel⟩,
      not_under_of_childless (by decide +kernel) (by decide)⟩
  have second : (after (append 0 2) orchard).Allows (.append 1 2) :=
    ⟨⟨by decide +kernel, by decide +kernel⟩, ⟨by decide +kernel, by decide +kernel⟩,
      not_under_of_childless (by decide +kernel) (by decide)⟩
  have third : (after (append 1 2) (after (append 0 2) orchard)).Allows (.dispose 2) :=
    (by decide +kernel : 2 < _)
  exact ((fresh.did first).did second).did third

/-- The first object keeps the disposed one on its list. -/
theorem transplanted_lists_disposed :
    ∃ deeds, Grafted deeds transplanted ∧
      ¬ ∀ parent, ∀ child ∈ (transplanted.object parent).children,
        (transplanted.object child).disposed = false := by
  refine ⟨transplant, transplanted_grafted, fun clean => ?_⟩
  have inUse := clean 0 2 (by decide +kernel)
  revert inUse
  decide +kernel

theorem Grafted.lists_no_disposed_iff_transplanted :
    Grafted transplant transplanted ∧ HungAgain transplant 0 2 ∧
      ∃ later, (dispose 0).run transplanted = .ok () later ∧
        ∀ other, (later.object other).disposed = true ↔
          (transplanted.object other).disposed = true ∨ transplanted.Under 0 other :=
  ⟨transplanted_grafted, ⟨1, by decide⟩,
    (lists_no_disposed_iff transplanted_grafted).2 0 (by decide +kernel)⟩

end World

end CommandHost
