import CommandHost.Proofs.Object.Registration

/-!
# How a creation grows a scene

A creation builds objects, hangs them below one another, and discards some of them
again; in between hooks run, which may make objects of their own.  `Scene.Grown` compares
the scene before with any scene that a creation passes through, given the list of the
objects it built so far, discarded ones included.  Older objects are as before.  Of the
older registrations exactly those are gone whose id one of the built objects bears; that
some of these were themselves replaced or discarded later makes no difference.
-/

namespace CommandHost.Scene

variable {before scene later : Scene} {base : Nat} {built more gone : List Nat}

/-- A change that leaves the objects that are there and the registry alone.  New objects
are possible, as long as they are not linked. -/
structure Unmoved (before later : Scene) : Prop where
  count_le : before.count ≤ later.count
  known_eq : later.known = before.known
  registry_eq : later.registry = before.registry
  node_eq : ∀ handle < before.count, later.node handle = before.node handle
  fresh : ∀ handle, before.count ≤ handle →
    (later.node handle).IsAlone ∧ (later.node handle).disposed = false

/-- Whether no object of a list bears an id. -/
def Unborne (scene : Scene) (built : List Nat) (id : String) : Prop :=
  ∀ handle ∈ built, (scene.node handle).id ≠ id

instance (scene : Scene) (built : List Nat) (id : String) :
    Decidable (scene.Unborne built id) :=
  inferInstanceAs (Decidable (∀ handle ∈ built, (scene.node handle).id ≠ id))

/-- What a creation that built a list of objects has changed. -/
structure Grown (before later : Scene) (built : List Nat) : Prop where
  count_le : before.count ≤ later.count
  known_eq : later.known = before.known
  node_eq : ∀ handle < before.count, later.node handle = before.node handle
  mem_range : ∀ handle ∈ built, before.count ≤ handle ∧ handle < later.count
  apart : ∀ handle, before.count ≤ handle → handle ∉ built →
    (later.node handle).IsAlone ∧ (later.node handle).disposed = false
  older_eq : later.registry.objects.filter (·.2 < before.count) =
    before.registry.objects.filter fun entry => later.Unborne built entry.1
  registered : ∀ entry ∈ later.registry.objects, before.count ≤ entry.2 →
    entry.2 ∈ built

/-- Every built object is disposed or hangs below one of them. -/
def HangsBelow (scene : Scene) (top : Nat) (built : List Nat) : Prop :=
  ∀ handle ∈ built, (scene.node handle).disposed = true ∨ scene.Below top handle

/-! ## Unmoved scenes -/

namespace Unmoved

theorem forest (unmoved : before.Unmoved later) (forest : before.Forest base) :
    later.Forest base := by
  refine forest.transfer unmoved.count_le fun handle => ?_
  by_cases older : handle < before.count
  · exact .inl (unmoved.node_eq handle older)
  · have absent : before.count ≤ handle := Nat.not_lt.mp older
    exact .inr ⟨(unmoved.fresh handle absent).1, forest.absent_isAlone handle absent⟩

theorem sound (unmoved : before.Unmoved later) (sound : before.Sound base) :
    later.Sound base where
  forest := unmoved.forest sound.forest
  keyed := by
    refine sound.keyed.transfer unmoved.count_le unmoved.registry_eq ?_ ?_
    · intro handle older
      rw [unmoved.node_eq handle older]
    · intro handle older
      rw [unmoved.node_eq handle older]
  lively entry member new := by
    rw [unmoved.registry_eq] at member
    rw [unmoved.node_eq entry.2 (sound.keyed.lt_count entry member)]
    exact sound.lively entry member new

theorem grown (unmoved : before.Unmoved later) (keyed : before.Keyed base) :
    before.Grown later [] where
  count_le := unmoved.count_le
  known_eq := unmoved.known_eq
  node_eq := unmoved.node_eq
  mem_range handle member := absurd member List.not_mem_nil
  apart handle absent _ := unmoved.fresh handle absent
  older_eq := by
    rw [unmoved.registry_eq]
    refine List.filter_congr fun entry member => ?_
    have older := keyed.lt_count entry member
    simp [older, Unborne]
  registered entry member new := by
    rw [unmoved.registry_eq] at member
    exact absurd (keyed.lt_count entry member) (Nat.not_lt.mpr new)

end Unmoved

/-! ## Steps of a creation -/

namespace Grown

theorem unborne_append (scene : Scene) (first second : List Nat) (id : String) :
    scene.Unborne (first ++ second) id ↔
      scene.Unborne first id ∧ scene.Unborne second id := by
  simp only [Unborne, List.mem_append, or_imp, forall_and]

/-- Ids of built objects stay as they are while the creation goes on. -/
theorem unborne_iff (grown : before.Grown scene built) (further : scene.Grown later more)
    (id : String) : later.Unborne built id ↔ scene.Unborne built id := by
  unfold Unborne
  refine forall_congr' fun handle => imp_congr_right fun member => ?_
  rw [further.node_eq handle (grown.mem_range handle member).2]

theorem trans (grown : before.Grown scene built) (further : scene.Grown later more) :
    before.Grown later (built ++ more) where
  count_le := grown.count_le.trans further.count_le
  known_eq := further.known_eq.trans grown.known_eq
  node_eq handle older := by
    rw [further.node_eq handle (older.trans_le grown.count_le)]
    exact grown.node_eq handle older
  mem_range handle member := by
    rcases List.mem_append.mp member with first | second
    · have range := grown.mem_range handle first
      exact ⟨range.1, range.2.trans_le further.count_le⟩
    · have range := further.mem_range handle second
      exact ⟨grown.count_le.trans range.1, range.2⟩
  apart handle absent stranger := by
    have notFirst : handle ∉ built := fun member =>
      stranger (List.mem_append_left more member)
    have notSecond : handle ∉ more := fun member =>
      stranger (List.mem_append_right built member)
    by_cases older : handle < scene.count
    · rw [further.node_eq handle older]
      exact grown.apart handle absent notFirst
    · exact further.apart handle (Nat.not_lt.mp older) notSecond
  older_eq := by
    have restrict :
        later.registry.objects.filter (·.2 < before.count) =
          (later.registry.objects.filter (·.2 < scene.count)).filter
            (·.2 < before.count) := by
      rw [List.filter_filter]
      refine List.filter_congr fun entry _ => ?_
      have wider : entry.2 < before.count → entry.2 < scene.count := fun older =>
        older.trans_le grown.count_le
      by_cases older : entry.2 < before.count
      · simp [older, wider older]
      · simp [older]
    have swap :
        (scene.registry.objects.filter fun entry => later.Unborne more entry.1).filter
            (·.2 < before.count) =
          (scene.registry.objects.filter (·.2 < before.count)).filter
            fun entry => later.Unborne more entry.1 := by
      simp only [List.filter_filter, Bool.and_comm]
    rw [restrict, further.older_eq, swap, grown.older_eq, List.filter_filter]
    refine List.filter_congr fun entry _ => ?_
    simp only [unborne_append, grown.unborne_iff further, Bool.decide_and, Bool.and_comm]
  registered entry member new := by
    by_cases older : entry.2 < scene.count
    · have kept : entry ∈ later.registry.objects.filter (·.2 < scene.count) :=
        List.mem_filter.mpr ⟨member, decide_eq_true older⟩
      rw [further.older_eq] at kept
      have earlier := (List.mem_filter.mp kept).1
      exact List.mem_append_left more (grown.registered entry earlier new)
    · have isLater := further.registered entry member (Nat.not_lt.mp older)
      exact List.mem_append_right built isLater

theorem enter (keyed : before.Keyed base) (forest : before.Forest base) {node : Node}
    (absent : ∀ handle, before.count ≤ handle → (before.node handle).disposed = false) :
    before.Grown (before.enter node) [before.count] where
  count_le := Nat.le_succ _
  known_eq := rfl
  node_eq handle older := Keyed.enter_node before node older
  mem_range handle member := by
    rw [List.mem_singleton.mp member]
    exact ⟨Nat.le_refl _, Nat.lt_succ_self _⟩
  apart handle new stranger := by
    have notLast : handle ≠ before.count := fun same =>
      stranger (List.mem_singleton.mpr same)
    have same : (before.enter node).node handle = before.node handle := by
      simp [Scene.enter, register, push, modify, notLast]
    rw [same]
    exact ⟨forest.absent_isAlone handle new, absent handle new⟩
  older_eq := by
    have unborne (entry : String × Nat) :
        (before.enter node).Unborne [before.count] entry.1 ↔ entry.1 ≠ node.id := by
      simp only [Unborne, List.mem_singleton, forall_eq, Keyed.enter_newNode, ne_comm]
    have last : [(node.id, before.count)].filter (·.2 < before.count) = [] := by simp
    rw [Keyed.enter_objects, List.filter_append, last, List.append_nil, Table.erase,
      List.filter_filter]
    refine List.filter_congr fun entry member => ?_
    have older := keyed.lt_count entry member
    simp [older, unborne]
  registered entry member new := by
    rcases Keyed.mem_enter_objects member with older | rfl
    · exact absurd (keyed.lt_count entry older) (Nat.not_lt.mpr new)
    · exact List.mem_singleton.mpr rfl

/-- Links between built objects do not matter. -/
theorem append (grown : before.Grown scene built) {parent child : Nat}
    (parentBuilt : parent ∈ built) (childBuilt : child ∈ built) :
    before.Grown (scene.append parent child) built := by
  have unborne (id : String) :
      (scene.append parent child).Unborne built id ↔ scene.Unborne built id := by
    simp only [Unborne, append_id]
  refine ⟨grown.count_le, grown.known_eq, ?_, grown.mem_range, ?_, ?_, grown.registered⟩
  · intro handle older
    have parentNew := (grown.mem_range parent parentBuilt).1
    have childNew := (grown.mem_range child childBuilt).1
    rw [append_node_of_ne _ _ _ _ (by omega) (by omega)]
    exact grown.node_eq handle older
  · intro handle new notBuilt
    have notParent : handle ≠ parent := fun same => notBuilt (same ▸ parentBuilt)
    have notChild : handle ≠ child := fun same => notBuilt (same ▸ childBuilt)
    rw [append_node_of_ne _ _ _ _ notParent notChild]
    exact grown.apart handle new notBuilt
  · simp only [unborne]
    exact grown.older_eq

/-- Discarding the tree of a built object that has no parent concerns built objects
only. -/
theorem discard (grown : before.Grown scene built) (forest : scene.Forest base)
    (new : base ≤ before.count) {top : Nat} (topBuilt : top ∈ built)
    (isTop : scene.parentOf top = none) (first : top = before.count)
    (isBelow : ∀ handle, handle ∈ gone ↔ scene.Below top handle) :
    before.Grown (scene.discard gone) built := by
  have topNew : base ≤ top := first ▸ new
  have range (handle : Nat) (member : handle ∈ gone) : before.count ≤ handle :=
    first ▸ forest.le_of_below topNew ((isBelow handle).mp member)
  have goneBuilt (handle : Nat) (member : handle ∈ gone) : handle ∈ built := by
    by_contra stranger
    have alone := (grown.apart handle (range handle member) stranger).1
    rcases Relation.ReflTransGen.cases_tail ((isBelow handle).mp member) with
      isTop | ⟨parent, _, step⟩
    · exact stranger (isTop ▸ topBuilt)
    · rw [parentOf, alone.1] at step
      cases step
  have untouched (handle : Nat) (kept : handle ∉ gone) :
      (scene.discard gone).node handle = scene.node handle := by
    simp only [Scene.discard, withdraw, retireAll, kept, if_false]
    refine Node.without_eq_self fun child member childGone => ?_
    have childNew : base ≤ child := new.trans (range child childGone)
    have below := (forest.mem_children_iff handle child (.inr childNew)).mp member
    rcases Relation.ReflTransGen.cases_tail ((isBelow child).mp childGone) with
      isTop' | ⟨parent, reaches, step⟩
    · rw [isTop', isTop] at below
      cases below
    · have sameParent : handle = parent := Option.some.inj (below.symm.trans step)
      exact kept ((isBelow handle).mpr (sameParent ▸ reaches))
  have unborne (id : String) :
      (scene.discard gone).Unborne built id ↔ scene.Unborne built id := by
    have id_eq (handle : Nat) :
        ((scene.discard gone).node handle).id = (scene.node handle).id :=
      retireAll_id scene gone handle
    simp only [Unborne, id_eq]
  refine ⟨grown.count_le, grown.known_eq, ?_, grown.mem_range, ?_, ?_, ?_⟩
  · intro handle older
    have kept : handle ∉ gone := fun member =>
      absurd older (Nat.not_lt.mpr (range handle member))
    rw [untouched handle kept]
    exact grown.node_eq handle older
  · intro handle handleNew notBuilt
    have kept : handle ∉ gone := fun member => notBuilt (goneBuilt handle member)
    rw [untouched handle kept]
    exact grown.apart handle handleNew notBuilt
  · have narrow :
        (scene.registry.objects.filter (·.2 ∉ gone)).filter (·.2 < before.count) =
          scene.registry.objects.filter (·.2 < before.count) := by
      rw [List.filter_filter]
      refine List.filter_congr fun entry _ => ?_
      have notGone : entry.2 < before.count → entry.2 ∉ gone := fun older member =>
        absurd older (Nat.not_lt.mpr (range entry.2 member))
      by_cases older : entry.2 < before.count
      · simp [older, notGone older]
      · simp [older]
    simp only [unborne]
    exact narrow.trans grown.older_eq
  · intro entry member entryNew
    exact grown.registered entry (List.mem_filter.mp member).1 entryNew

/-- What hangs below an older object still does. -/
theorem below (grown : before.Grown later built) (forest : before.Forest base)
    {top handle : Nat} (reaches : before.Below top handle) : later.Below top handle := by
  refine Relation.ReflTransGen.mono (fun parent child step => ?_) _ _ reaches
  rw [parentOf, grown.node_eq child (forest.lt_count step)]
  exact step

end Grown

/-! ## A tree under construction -/

theorem below_append (scene : Scene) (parent child : Nat) :
    (scene.append parent child).Below parent child := by
  refine Relation.ReflTransGen.single ?_
  rw [parentOf_append, if_pos rfl]

/-- An object that had no parent can be hung below another one without losing a way down
the trees. -/
theorem Below.append {top handle child : Nat} (reaches : scene.Below top handle)
    (childTop : scene.parentOf child = none) (parent : Nat) :
    (scene.append parent child).Below top handle := by
  refine Relation.ReflTransGen.mono (fun upper lower step => ?_) _ _ reaches
  have notChild : lower ≠ child := by
    rintro rfl
    rw [childTop] at step
    cases step
  rw [parentOf_append, if_neg notChild]
  exact step

/-- A creation that has built a list of objects, its first one included, and is not
done. -/
structure Growing (base : Nat) (before scene : Scene) (built : List Nat) : Prop where
  sound : scene.Sound base
  grown : before.Grown scene built
  top_mem : before.count ∈ built
  top_parent : scene.parentOf before.count = none
  top_inUse : (scene.node before.count).disposed = false

namespace Growing

theorem enter (sound : before.Sound base) {node : Node} (alone : node.IsAlone)
    (inUse : node.disposed = false)
    (absent : ∀ handle, before.count ≤ handle → (before.node handle).disposed = false) :
    Growing base before (before.enter node) [before.count] where
  sound := sound.enter alone inUse
  grown := .enter sound.keyed sound.forest absent
  top_mem := List.mem_singleton.mpr rfl
  top_parent := by
    rw [parentOf, Keyed.enter_newNode]
    exact alone.1
  top_inUse := by
    rw [Keyed.enter_newNode]
    exact inUse

theorem top_lt (growing : Growing base before scene built) : before.count < scene.count :=
  (growing.grown.mem_range before.count growing.top_mem).2

theorem further (growing : Growing base before scene built) (sound : later.Sound base)
    (grown : scene.Grown later more) : Growing base before later (built ++ more) where
  sound := sound
  grown := growing.grown.trans grown
  top_mem := List.mem_append_left more growing.top_mem
  top_parent := by
    rw [parentOf, grown.node_eq _ growing.top_lt]
    exact growing.top_parent
  top_inUse := by
    rw [grown.node_eq _ growing.top_lt]
    exact growing.top_inUse

theorem further_hangs (growing : Growing base before scene built)
    (grown : scene.Grown later more) (hangs : scene.HangsBelow before.count built)
    (rest : later.HangsBelow before.count more) :
    later.HangsBelow before.count (built ++ more) := by
  intro handle member
  rcases List.mem_append.mp member with first | second
  · rcases hangs handle first with disposed | reaches
    · left
      rw [grown.node_eq handle (growing.grown.mem_range handle first).2]
      exact disposed
    · exact .inr (grown.below growing.sound.forest reaches)
  · exact rest handle second

variable (growing : Growing base before scene built)
  (childGrowing : Growing base scene later more)

include growing childGrowing

theorem append (new : base ≤ before.count) :
    Growing base before (later.append before.count scene.count) (built ++ more) := by
  have both := growing.further childGrowing.sound childGrowing.grown
  have earlier := growing.top_lt
  have childBuilt : scene.count ∈ built ++ more :=
    List.mem_append_right built childGrowing.top_mem
  have forest := both.sound.forest.append new earlier childGrowing.top_lt
    childGrowing.top_parent both.top_inUse childGrowing.top_inUse
  have keyed : (later.append before.count scene.count).Keyed base :=
    both.sound.keyed.transfer (Nat.le_refl later.count) rfl
      (fun handle _ => append_id later before.count scene.count handle)
      fun handle _ => append_listens later before.count scene.count handle
  have lively : (later.append before.count scene.count).Lively base := by
    intro entry member entryNew
    rw [append_disposed]
    exact both.sound.lively entry member entryNew
  refine ⟨⟨forest, keyed, lively⟩, both.grown.append both.top_mem childBuilt,
    both.top_mem, ?_, ?_⟩
  · rw [parentOf_append, if_neg earlier.ne]
    exact both.top_parent
  · rw [append_disposed]
    exact both.top_inUse

theorem append_hangs (hangs : scene.HangsBelow before.count built)
    (childHangs : later.HangsBelow scene.count more) :
    (later.append before.count scene.count).HangsBelow before.count (built ++ more) := by
  have link := below_append later before.count scene.count
  intro handle member
  rw [append_disposed]
  rcases List.mem_append.mp member with first | second
  · have older := (growing.grown.mem_range handle first).2
    rcases hangs handle first with disposed | reaches
    · left
      rw [childGrowing.grown.node_eq handle older]
      exact disposed
    · have stays := childGrowing.grown.below growing.sound.forest reaches
      exact .inr (stays.append childGrowing.top_parent before.count)
  · rcases childHangs handle second with disposed | reaches
    · exact .inl disposed
    · exact .inr (link.trans (reaches.append childGrowing.top_parent before.count))

omit childGrowing

theorem discard (new : base ≤ before.count)
    (isBelow : ∀ handle, handle ∈ gone ↔ scene.Below before.count handle) :
    (scene.discard gone).Sound base ∧ before.Grown (scene.discard gone) built := by
  have closed : scene.IsClosed gone :=
    isClosed_of_below [before.count] (by simpa using isBelow)
  exact ⟨growing.sound.discard closed,
    growing.grown.discard growing.sound.forest new growing.top_mem growing.top_parent rfl
      isBelow⟩

omit growing

/-- When the tree under construction is discarded, all that was built is disposed. -/
theorem discard_disposed (hangs : scene.HangsBelow before.count built)
    (isBelow : ∀ handle, handle ∈ gone ↔ scene.Below before.count handle) :
    ∀ handle ∈ built, ((scene.discard gone).node handle).disposed = true := by
  intro handle member
  have disposed_eq := retireAll_disposed scene gone handle
  rcases hangs handle member with disposed | reaches
  · rw [disposed, Bool.or_true] at disposed_eq
    exact disposed_eq
  · rw [decide_eq_true ((isBelow handle).mpr reaches), Bool.true_or] at disposed_eq
    exact disposed_eq

end Growing

end CommandHost.Scene
