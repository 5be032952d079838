import CommandHost.Proofs.Object.Enrolment

/-!
# A creation builds the tree that is described

A creation registers an object before it builds what hangs below it, and it links an
object to its parent and calls its hook only after that.  `Planted` says what has come of
a row of descriptors in the end: the trees that stand, what was added to the registry, and
which hooks were called in which worlds.

The recursion goes over the plan of the descriptors, that is over the descriptors of the
children inside of a descriptor and over those beside it.  `Planted.cons` puts what was
built for the first descriptor together with what was built for the others.
-/

namespace CommandHost

variable {V : Vocabulary}

/-! ## Trees and calls -/

/-- What the object does when it has been created. -/
def Site.act (host : Host V) (site : Site V) : Effect V Unit :=
  match site.plan.kind.hook with
  | none => pure ()
  | some hook => host.hook hook site.handle

/-- The places of the objects at the top. -/
def Grove.tops (sites : Grove (Site V)) : List Nat := sites.roots.map Site.handle

/-- The object with some others below it behind those that are there. -/
def RuntimeObject.adopt (object : RuntimeObject V) (children : List Nat) : RuntimeObject V :=
  { object with children := object.children ++ children }

theorem RuntimeObject.adopt_nil (object : RuntimeObject V) : object.adopt [] = object := by
  simp [adopt]

namespace World

/-- The objects of a row of trees are in a world what they should be, with the first ones
below a parent, or below none. -/
def Bears (world : World V) (context : Context V) : Option Nat → Grove (Site V) → Prop
  | _, .nil => True
  | parent, .cons site below rest =>
    world.object site.handle = site.object context parent below.tops ∧
      world.Bears context (some site.handle) below ∧ world.Bears context parent rest

/-- The hooks of some objects are called one after the other, each one once the object and
all that is below it stand, and before it has a parent.  Between the calls nothing
happens but to objects, the registry of the module and the journal. -/
inductive Visits (host : Host V) (place : Nat) (context : Context V) :
    World V → List (Site V × Grove (Site V)) → World V → Prop where
  | done {world final : World V} (same : world.SameOutside place final) :
      Visits host place context world [] final
  | called {world ready next final : World V} {site : Site V} {below : Grove (Site V)}
      {visits : List (Site V × Grove (Site V))} (same : world.SameOutside place ready)
      (bears : ready.Bears context none (.cons site below .nil))
      (calls : (site.act host).run ready = .ok () next)
      (others : Visits host place context next visits final) :
      Visits host place context world ((site, below) :: visits) final

/-- What has come of a row of descriptors: trees of new objects, below a parent or below
none, with each object registered before those below it, and a call of the hook of each
object after those of the objects below it. -/
structure Planted (host : Host V) (place : Nat) (context : Context V) (parent : Option Nat)
    (world : World V) (sites : Grove (Site V)) (final : World V) : Prop where
  bears : final.Bears context parent sites
  size_le : world.objects.size ≤ final.objects.size
  handle_new : ∀ site ∈ sites.preorder,
    world.objects.size ≤ site.handle ∧ site.handle < final.objects.size
  object_eq : ∀ handle < world.objects.size, final.object handle =
    if parent = some handle then (world.object handle).adopt sites.tops
    else world.object handle
  enrolled : Enrolled place world sites.preorder final
  visits : Visits host place context world sites.postorder final

end World

/-- Hooks of objects that are in use succeed, and leave the objects that are there, the
module and its context alone. -/
def Host.Considerate (host : Host V) (place : Nat) : Prop :=
  ∀ (hook : V.Hook) (handle : Nat) (world : World V), world.InUse handle →
    ∃ final, (host.hook hook handle).run world = .ok () final ∧ world.Spares place final

namespace World

variable {host : Host V} {place : Nat} {context : Context V} {parent : Option Nat}
  {world later middle final : World V} {sites : Grove (Site V)}

namespace Visits

variable {visits others : List (Site V × Grove (Site V))}

theorem after_same (same : world.SameOutside place later)
    (visited : Visits host place context later visits final) :
    Visits host place context world visits final := by
  cases visited with
  | done rest => exact .done (same.trans rest)
  | called rest bears calls others => exact .called (same.trans rest) bears calls others

theorem append (first : Visits host place context world visits middle)
    (second : Visits host place context middle others final) :
    Visits host place context world (visits ++ others) final := by
  induction first with
  | done same => exact second.after_same same
  | called same bears calls _ inductionHypothesis =>
      exact .called same bears calls (inductionHypothesis second)

theorem then_same (visited : Visits host place context world visits middle)
    (same : middle.SameOutside place final) :
    Visits host place context world visits final := by
  have joined := visited.append (.done same)
  rwa [List.append_nil] at joined

/-- A host whose hooks write down what they see remembers the objects that have a hook, each
one once and after those below it, with its children and without a parent. -/
theorem memory_eq {record : V.Memory → Nat → RuntimeObject V → V.Memory}
    (records : ∀ hook handle earlier later, (host.hook hook handle).run earlier = .ok () later →
      later.memory = record earlier.memory handle (earlier.object handle))
    (visited : Visits host place context world visits final) :
    final.memory = (visits.filter fun visit => visit.1.plan.kind.hook.isSome).foldl
      (fun memory visit =>
        record memory visit.1.handle (visit.1.object context none visit.2.tops))
      world.memory := by
  induction visited with
  | done same =>
      rw [same.rest_eq]
      rfl
  | @called world ready next final site below visits same bears calls _ inductionHypothesis =>
      have ready_memory : ready.memory = world.memory := by rw [same.rest_eq]
      unfold Site.act at calls
      cases hooked : site.plan.kind.hook with
      | none =>
          rw [hooked] at calls
          cases calls
          rw [List.filter_cons_of_neg (by simp [hooked]), inductionHypothesis, ready_memory]
      | some hook =>
          rw [hooked] at calls
          have written := records hook site.handle ready next calls
          rw [ready_memory, bears.1] at written
          rw [List.filter_cons_of_pos (by simp [hooked]), List.foldl_cons,
            inductionHypothesis, written]

end Visits

namespace Bears

/-- Only the objects of the trees matter. -/
theorem transfer (bears : world.Bears context parent sites)
    (object_eq : ∀ site ∈ sites.preorder,
      later.object site.handle = world.object site.handle) :
    later.Bears context parent sites := by
  induction sites generalizing parent with
  | nil => trivial
  | cons site below rest belowHypothesis restHypothesis =>
      obtain ⟨top, inside, beside⟩ := bears
      refine ⟨(object_eq site List.mem_cons_self).trans top, ?_, ?_⟩
      · exact belowHypothesis inside fun other member =>
          object_eq other (List.mem_cons_of_mem site (List.mem_append_left _ member))
      · exact restHypothesis beside fun other member =>
          object_eq other (List.mem_cons_of_mem site (List.mem_append_right _ member))

theorem id_eq (bears : world.Bears context parent sites) :
    ∀ site ∈ sites.preorder, (world.object site.handle).id = site.id := by
  induction sites generalizing parent with
  | nil => exact fun _ member => absurd member List.not_mem_nil
  | cons top below rest belowHypothesis restHypothesis =>
      obtain ⟨object_eq, inside, beside⟩ := bears
      intro site member
      rcases List.mem_cons.mp member with rfl | further
      · rw [object_eq]
        rfl
      · rcases List.mem_append.mp further with isBelow | isBeside
        · exact belowHypothesis inside site isBelow
        · exact restHypothesis beside site isBeside

end Bears

/-! ## Rows of trees that were built -/

/-- What appending does to objects. -/
theorem append_run {top child : Nat} (different : top ≠ child)
    (topThere : top < world.objects.size) (childThere : child < world.objects.size) :
    ∃ objects,
      (World.append top child).run world = .ok () { world with objects := objects } ∧
        objects.size = world.objects.size ∧
          ∀ handle, ({ world with objects := objects } : World V).object handle =
            if handle = child then { world.object child with parent := some top }
            else if handle = top then (world.object top).adopt [child]
            else world.object handle := by
  let linked := after
    (Effect.updateObject child fun object : RuntimeObject V =>
      { object with parent := some top }) world
  let appended := after
    (Effect.updateObject top fun object : RuntimeObject V =>
      { object with children := object.children ++ [child] }) linked
  have linked_size : linked.objects.size = world.objects.size := Array.size_modify
  refine ⟨appended.objects, rfl, Array.size_modify.trans linked_size, fun handle => ?_⟩
  change appended.object handle = _
  rw [object_updateObject, linked_size, object_updateObject]
  by_cases isChild : handle = child
  · have notTop : handle ≠ top := fun isTop => different (isTop.symm.trans isChild)
    rw [if_neg fun both => notTop both.1, if_pos ⟨isChild, isChild ▸ childThere⟩,
      if_pos isChild, isChild]
  · have notLinked : ¬ (handle = child ∧ handle < world.objects.size) :=
      fun both => isChild both.1
    by_cases isTop : handle = top
    · rw [if_pos ⟨isTop, isTop ▸ topThere⟩, if_neg notLinked, if_neg isChild, if_pos isTop,
        isTop]
      rfl
    · rw [if_neg fun both => isTop both.1, if_neg notLinked, if_neg isChild, if_neg isTop]

namespace Planted

theorem nil (host : Host V) (context : Context V) (parent : Option Nat)
    (known : place < world.modules.size) :
    Planted host place context parent world .nil world where
  bears := trivial
  size_le := Nat.le_refl _
  handle_new := fun _ member => absurd member List.not_mem_nil
  object_eq := fun handle _ => by
    rw [Grove.tops, Grove.roots, List.map_nil, RuntimeObject.adopt_nil, ite_self]
  enrolled := .of_spares known (.of_eq rfl rfl rfl rfl)
  visits := .done (.refl place world)

theorem handles_nodup (planted : Planted host place context parent world sites final) :
    (sites.preorder.map Site.handle).Nodup := by
  have ids_eq : sites.preorder.map Site.id =
      (sites.preorder.map Site.handle).map fun handle => (final.object handle).id := by
    rw [List.map_map]
    exact List.map_congr_left fun site member => (planted.bears.id_eq site member).symm
  have ids_nodup := planted.enrolled.ids_nodup
  rw [ids_eq] at ids_nodup
  exact ids_nodup.of_map _

/-- A further row below the same parent leaves alone what is new. -/
theorem object_eq_of_le {base : Nat}
    (planted : Planted host place context parent world sites final)
    (parentOlder : ∀ handle, parent = some handle → handle < base) {handle : Nat}
    (new : base ≤ handle) (there : handle < world.objects.size) :
    final.object handle = world.object handle := by
  have notParent : parent ≠ some handle := fun isParent =>
    absurd (parentOlder handle isParent) (Nat.not_lt.mpr new)
  rw [planted.object_eq handle there, if_neg notParent]

/-- What was built for the first descriptor and for the others. -/
theorem cons {site : Site V} {below rest : Grove (Site V)}
    (first : Planted host place context parent world (.cons site below .nil) middle)
    (others : Planted host place context parent middle rest final)
    (parentThere : ∀ handle, parent = some handle → handle < world.objects.size) :
    Planted host place context parent world (.cons site below rest) final := by
  have preorder_eq := Grove.preorder_cons site below rest
  have members (other : Site V) : other ∈ (Grove.cons site below rest).preorder ↔
      other ∈ (Grove.cons site below .nil).preorder ∨ other ∈ rest.preorder := by
    rw [preorder_eq, List.mem_append]
  have firstBears : final.Bears context parent (.cons site below .nil) := by
    refine first.bears.transfer fun other member => ?_
    have new := first.handle_new other member
    exact others.object_eq_of_le parentThere new.1 new.2
  constructor
  case bears => exact ⟨firstBears.1, firstBears.2.1, others.bears⟩
  case size_le => exact first.size_le.trans others.size_le
  case handle_new =>
    intro other member
    rcases (members other).mp member with isFirst | isOther
    · have new := first.handle_new other isFirst
      exact ⟨new.1, new.2.trans_le others.size_le⟩
    · have new := others.handle_new other isOther
      exact ⟨first.size_le.trans new.1, new.2⟩
  case object_eq =>
    intro handle there
    rw [others.object_eq handle (there.trans_le first.size_le), first.object_eq handle there]
    by_cases isParent : parent = some handle
    · rw [if_pos isParent, if_pos isParent, if_pos isParent]
      simp [RuntimeObject.adopt, Grove.tops, Grove.roots]
    · rw [if_neg isParent, if_neg isParent, if_neg isParent]
  case enrolled =>
    rw [preorder_eq]
    exact first.enrolled.trans others.enrolled
  case visits =>
    rw [Grove.postorder_cons]
    exact first.visits.append others.visits

/-- A tree that stands alone is hung below an older object. -/
theorem append {site : Site V} {below : Grove (Site V)} {top : Nat}
    (planted : Planted host place context none world (.cons site below .nil) final)
    (there : top < world.objects.size) :
    ∃ appended,
      (World.append top site.handle).run final = .ok () appended ∧
        Planted host place context (some top) world (.cons site below .nil) appended := by
  have siteNew := planted.handle_new site List.mem_cons_self
  have notSite (handle : Nat) (older : handle < world.objects.size) :
      handle ≠ site.handle := by
    rintro rfl
    exact absurd older (Nat.not_lt.mpr siteNew.1)
  obtain ⟨objects, ran, size_eq, appended_eq⟩ := append_run (notSite top there)
    (there.trans_le planted.size_le) siteNew.2
  refine ⟨{ final with objects := objects }, ran, ?_⟩
  constructor
  case bears =>
    obtain ⟨site_eq, inside, -⟩ := planted.bears
    refine ⟨?_, inside.transfer fun other member => ?_, trivial⟩
    · rw [appended_eq, if_pos rfl, site_eq]
      rfl
    · have isBelow : other ∈ (Grove.cons site below .nil).preorder :=
        List.mem_cons_of_mem site (List.mem_append_left _ member)
      have notTop : other.handle ≠ top := by
        rintro rfl
        exact absurd there (Nat.not_lt.mpr (planted.handle_new other isBelow).1)
      have nodup := planted.handles_nodup
      rw [Grove.preorder, Grove.preorder, List.append_nil, List.map_cons,
        List.nodup_cons] at nodup
      have different : other.handle ≠ site.handle := fun same =>
        nodup.1 (same ▸ List.mem_map_of_mem member)
      rw [appended_eq, if_neg different, if_neg notTop]
  case object_eq =>
    intro handle older
    have final_eq := planted.object_eq handle older
    rw [if_neg (Option.some_ne_none handle).symm] at final_eq
    rw [appended_eq, if_neg (notSite handle older)]
    by_cases isTop : handle = top
    · rw [if_pos isTop, if_pos (congrArg some isTop.symm), ← isTop, final_eq]
      rfl
    · have notTop : some top ≠ some handle := fun same => isTop (Option.some.inj same).symm
      rw [if_neg isTop, if_neg notTop, final_eq]
  case visits => exact planted.visits.then_same ⟨fun _ _ => rfl, rfl⟩
  case size_le => exact planted.size_le.trans size_eq.ge
  case handle_new =>
    intro other member
    have new := planted.handle_new other member
    exact ⟨new.1, new.2.trans_eq size_eq.symm⟩
  case enrolled =>
    exact
      { planted.enrolled with }

end Planted

/-! ## One object -/

/-- An object that stands with all that is below it acts, and its creation is logged. -/
theorem finish_calls (considerate : host.Considerate place) {site : Site V}
    {below : Grove (Site V)} (bears : world.Bears context none (.cons site below .nil))
    (there : site.handle < world.objects.size) :
    ∃ next final, (site.act host).run world = .ok () next ∧
      (finish host place site.handle).run world = .ok () final ∧
        next.SameOutside place final ∧ world.Spares place final := by
  have kind_eq : (world.object site.handle).kind = site.plan.kind := by
    rw [bears.1]
    rfl
  have inUse : world.InUse site.handle := by
    refine ⟨there, ?_⟩
    rw [bears.1]
    rfl
  have acts : ∃ next, (site.act host).run world = .ok () next ∧ world.Spares place next := by
    unfold Site.act
    cases site.plan.kind.hook with
    | none => exact ⟨world, rfl, .of_eq rfl rfl rfl rfl⟩
    | some hook => exact considerate hook site.handle world inUse
  obtain ⟨next, ranAct, spares⟩ := acts
  obtain ⟨journal, ranAnnounce⟩ := announce_run place site.handle next
  have finish_eq : (finish host place site.handle).run world =
      (site.act host >>= fun _ => announce place site.handle).run world := by
    unfold Site.act
    cases hooked : site.plan.kind.hook with
    | none => exact finish_run_of_none ((congrArg ObjectClass.hook kind_eq).trans hooked)
    | some hook => exact finish_run_of_some ((congrArg ObjectClass.hook kind_eq).trans hooked)
  refine ⟨next, { next with journal := journal }, ranAct, ?_, ⟨fun _ _ => rfl, rfl⟩,
    spares.trans (.of_eq rfl rfl rfl rfl)⟩
  rw [finish_eq, run_bind_ok ranAct]
  exact ranAnnounce

/-- With what is below it built, the object stands with all of that. -/
theorem Entered.bears {site : Site V} {entered hung : World V} {below : Grove (Site V)}
    (entering : Entered place context world site entered)
    (inside : Planted host place context (some site.handle) entered below hung) :
    hung.Bears context none (.cons site below .nil) := by
  refine ⟨?_, inside.bears, trivial⟩
  rw [inside.object_eq _ entering.there, if_pos rfl, entering.object_eq, if_pos rfl]
  rfl

/-- With its hook called as well, the object is the root of a tree. -/
theorem Entered.planted {site : Site V} {entered hung next : World V} {below : Grove (Site V)}
    (entering : Entered place context world site entered)
    (inside : Planted host place context (some site.handle) entered below hung)
    (ranAct : (site.act host).run hung = .ok () next)
    (same : next.SameOutside place final) (spares : hung.Spares place final) :
    Planted host place context none world (.cons site below .nil) final := by
  have preorder_eq : (Grove.cons site below .nil).preorder = site :: below.preorder := by
    simp [Grove.preorder]
  have entered_le : world.objects.size ≤ entered.objects.size :=
    (Nat.le_succ _).trans entering.size_eq.ge
  have handle_new : ∀ other ∈ (Grove.cons site below .nil).preorder,
      world.objects.size ≤ other.handle ∧ other.handle < hung.objects.size := by
    intro other member
    rw [preorder_eq] at member
    rcases List.mem_cons.mp member with rfl | isBelow
    · exact ⟨entering.handle_eq.ge, entering.there.trans_le inside.size_le⟩
    · have new := inside.handle_new other isBelow
      exact ⟨entered_le.trans new.1, new.2⟩
  constructor
  case bears =>
    exact (entering.bears inside).transfer fun other member =>
      spares.object_eq other.handle (handle_new other member).2
  case size_le => exact entered_le.trans (inside.size_le.trans spares.size_le)
  case handle_new =>
    intro other member
    have new := handle_new other member
    exact ⟨new.1, new.2.trans_le spares.size_le⟩
  case object_eq =>
    intro handle older
    obtain ⟨notSite, enteredThere, entered_eq⟩ := entering.object_eq_of_lt older
    have notParent : some site.handle ≠ some handle := fun isSite =>
      notSite (Option.some.inj isSite).symm
    rw [if_neg (Option.some_ne_none handle).symm,
      spares.object_eq handle (enteredThere.trans_le inside.size_le),
      inside.object_eq handle enteredThere, if_neg notParent, entered_eq]
  case enrolled =>
    have hung := entering.enrolled.trans inside.enrolled
    have finished := hung.trans (.of_spares hung.known spares)
    rw [List.append_nil] at finished
    rw [preorder_eq]
    exact finished
  case visits =>
    have called : Visits host place context hung [(site, below)] final :=
      .called (.refl place hung) (entering.bears inside) ranAct (.done same)
    exact (inside.visits.append called).after_same entering.same

/-! ## Rows of descriptors -/

variable {classes : Table (ObjectClass V)}

theorem createWithin_run {data : Value} {given descriptor : Entries} {kind : ObjectClass V}
    {depth : Nat} (read : data.toEntries = .ok given)
    (found : resolve (world.moduleOf place) given = .ok (kind, descriptor)) :
    (createWithin host place (depth + 1) data).run world =
      (createOf host place depth kind descriptor
        (world.context (world.moduleOf place).context)).run world := by
  rw [createWithin_succ, read, run_bind_ok (ofUse_ok_run given world),
    run_bind_ok (EStateM.run_get world), found, run_bind_ok (ofExcept_ok_run _ world)]

/-- Wherever the ids of a row of descriptors are free, the row is planted below an object. -/
def HangsAsPlanned (host : Host V) (place : Nat) (classes : Table (ObjectClass V))
    (context : Context V) (values : List Value) (plan : Grove (Blueprint V)) : Prop :=
  ∀ (depth top : Nat) (world : World V) (others : List String),
    (∀ value ∈ values, value.depth ≤ depth) → top < world.objects.size →
      Offers place classes context world → Awaits place (plan.givenIds ++ others) world →
        ∃ sites final, (hangChildren host place depth top values).run world = .ok () final ∧
          sites.map Site.plan = plan ∧
            Planted host place context (some top) world sites final

/-- One descriptor, with the descriptors of the children in place. -/
theorem createWithin_plants (considerate : host.Considerate place) {kind : ObjectClass V}
    {given : Entries} {items : List Value} {below : Grove (Blueprint V)}
    (fits : Blueprint.Fits classes ⟨kind, given⟩) (listed : childrenOf given = .ok items)
    (hangs : HangsAsPlanned host place classes context items below) {depth : Nat}
    (deep : (Value.map given).depth ≤ depth) {others : List String}
    (offers : Offers place classes context world)
    (awaits : Awaits place
      ((Grove.cons ⟨kind, given⟩ below .nil).givenIds ++ others) world) :
    ∃ site inside final,
      (createWithin host place depth (.map given)).run world = .ok site.handle final ∧
        (Grove.cons site inside .nil).map Site.plan = .cons ⟨kind, given⟩ below .nil ∧
          Planted host place context none world (.cons site inside .nil) final := by
  obtain ⟨lower, rfl⟩ : ∃ lower, depth = lower + 1 :=
    Nat.exists_eq_succ_of_ne_zero ((Value.depth_pos _).trans_le deep).ne'
  rw [Grove.givenIds_top, List.append_assoc] at awaits
  have own : ∀ id, (⟨kind, given⟩ : Blueprint V).id? = some id →
      id ∈ [⟨kind, given⟩].filterMap Blueprint.id? ++ (below.givenIds ++ others) := by
    intro id isGiven
    exact List.mem_append_left _
      (List.mem_filterMap.mpr ⟨⟨kind, given⟩, List.mem_singleton_self _, isGiven⟩)
  obtain ⟨entered, ranEnter, entering⟩ := enter_entered awaits fits own context
  have childDeep : ∀ child ∈ items, child.depth ≤ lower := fun child member =>
    Nat.le_of_lt_succ ((depth_lt_of_childrenOf listed member).trans_le deep)
  obtain ⟨inside, hung, ranHang, inside_eq, planted⟩ :=
    hangs lower world.objects.size entered others childDeep entering.there
      (entering.enrolled.offers offers) (entering.enrolled.awaits awaits)
  obtain ⟨next, final, ranAct, ranFinish, same, spares⟩ :=
    finish_calls considerate (entering.bears planted)
      (entering.there.trans_le planted.size_le)
  have ranListed :
      (hangOrDiscard host place lower world.objects.size
        (Entries.update kind.defaults given)).run entered = .ok () hung := by
    rw [hangOrDiscard_eq, run_tryCatch, hangListed, fits.childrenOf_update, listed,
      run_bind_ok (ofUse_ok_run items entered), ranHang]
  refine ⟨world.nextSite ⟨kind, given⟩, inside, final, ?_, ?_,
    entering.planted planted ranAct same spares⟩
  · have found := fits.resolve_eq offers.classes_eq
    rw [createWithin_run rfl found, createOf_eq, offers.context_eq, run_bind_ok ranEnter,
      run_bind_ok ranListed]
    exact run_bind_ok ranFinish
  · rw [Grove.map, inside_eq]
    rfl

/-- The recursion over a plan: what is inside of the first descriptor, then what is beside
it. -/
theorem hangsAsPlanned (considerate : host.Considerate place) {values : List Value}
    {plan : Grove (Blueprint V)} (isPlan : IsPlan classes values plan) :
    HangsAsPlanned host place classes context values plan := by
  induction isPlan with
  | nil =>
      intro depth top world others _ _ _ awaits
      exact ⟨.nil, world, rfl, rfl, .nil host context (some top) awaits.known⟩
  | @cons kind given items values below rest fits listed _ _ inside beside =>
      intro depth top world others deep there offers awaits
      rw [Grove.givenIds_cons, List.append_assoc] at awaits
      obtain ⟨site, children, middle, ranFirst, first_eq, first⟩ :=
        createWithin_plants considerate fits listed inside (deep _ List.mem_cons_self) offers
          awaits
      obtain ⟨appended, ranAppend, hung⟩ := first.append there
      have appendedAwaits : Awaits place (rest.givenIds ++ others) appended := by
        refine hung.enrolled.awaits ?_
        rw [← Grove.preorder_map, first_eq]
        exact awaits
      obtain ⟨sites, final, ranOthers, others_eq, planted⟩ :=
        beside depth top appended others
          (fun value member => deep value (List.mem_cons_of_mem _ member))
          (there.trans_le hung.size_le) (hung.enrolled.offers offers) appendedAwaits
      refine ⟨.cons site children sites, final, ?_, ?_, hung.cons planted ?_⟩
      · rw [hangChildren_cons, hangChildren_singleton,
          run_bind_ok ((run_bind_ok ranFirst).trans ranAppend)]
        exact ranOthers
      · simp only [Grove.map, Grove.cons.injEq, others_eq, and_true] at first_eq ⊢
        exact first_eq
      · rintro _ ⟨⟩
        exact there

/-- Where the ids of a descriptor and of all that it describes are free, and no hook
interferes, a creation builds exactly the tree that is described. -/
theorem create_plants (considerate : host.Considerate place) {data : Value}
    {plan : Grove (Blueprint V)} (isPlan : IsPlan (world.moduleOf place).classes [data] plan)
    (awaits : Awaits place plan.givenIds world) :
    ∃ handle final sites,
      (create host place data).run world = .ok handle final ∧
        sites.map Site.plan = plan ∧ sites.tops = [handle] ∧
          (sites.preorder.map Site.handle).Nodup ∧
            (sites.postorder.map Prod.fst).Perm sites.preorder ∧
              Planted host place (world.context (world.moduleOf place).context) none world
                sites final := by
  cases isPlan with
  | cons fits listed inside beside =>
      cases beside with
      | nil =>
          rw [← List.append_nil (Grove.givenIds _)] at awaits
          obtain ⟨site, children, final, ran, plan_eq, planted⟩ :=
            createWithin_plants considerate fits listed (hangsAsPlanned considerate inside)
              (Nat.le_add_right _ defaultsDepth) ⟨rfl, rfl⟩ awaits
          exact ⟨site.handle, final, .cons site children .nil, ran, plan_eq, rfl,
            planted.handles_nodup, Grove.postorder_perm_preorder _, planted⟩

end World

/-! ## A folder with three items -/

abbrev scribeWords : Vocabulary where
  Callback := Empty
  Handler := Empty
  Verb := Empty
  Ticker := Unit
  Hook := Unit
  Note := Empty
  Memory := List (Nat × List Nat)

/-- A host whose objects write down their children when they are created. -/
def scribe : Host scribeWords where
  callback := nofun
  handler := nofun
  verb := nofun
  ticker _ _ _ := pure ()
  hook _ handle := modify fun world =>
    { world with memory := world.memory ++ [(handle, (world.object handle).children)] }

theorem scribe_considerate (place : Nat) : scribe.Considerate place :=
  fun _ _ _ _ => ⟨_, rfl, .of_eq rfl rfl rfl rfl⟩

/-- Items listen to frames, act when they are created, and are black unless they say
otherwise. -/
def item : ObjectClass scribeWords :=
  ⟨"Item", Entries.ofTexts [("ink", .text "black"), ("size", .int 1)], [], some (), some ()⟩

/-- A world with one item. -/
def archive : World scribeWords :=
  World.after
    (World.create scribe 0
      (.map (Entries.ofTexts [("_id", .text "z"), ("_type", .text "item")])))
    { World.start .standard [] [] with
      modules := #[.ofClass ⟨[("item", item)], [], none⟩ "m" 0] }

/-- The descriptor of an object that has nothing but an id. -/
def clip : Entries := Entries.ofTexts [("_id", .text "c")]

/-- The descriptor of an item without an id, with an object of no type below it. -/
def sheet : Entries :=
  Entries.ofTexts [("_type", .text "item"), ("_children", .list [.map clip])]

/-- The descriptor of an item with a name. -/
def cover : Entries :=
  Entries.ofTexts [("_id", .text "d"), ("_name", .text "last"), ("_type", .text "item")]

/-- The descriptor of an item with two others below it. -/
def folder : Entries :=
  Entries.ofTexts [("_id", .text "a"), ("_type", .text "item"), ("ink", .text "blue"),
    ("_children", .list [.map sheet, .map cover])]

def folderPlan : Grove (Blueprint scribeWords) :=
  .cons ⟨item, folder⟩
    (.cons ⟨item, sheet⟩ (.cons ⟨.plain scribeWords, clip⟩ .nil .nil)
      (.cons ⟨item, cover⟩ .nil .nil))
    .nil

/-- An entry that is a text, or is not there, can be written out. -/
theorem writable_of_text {given : Entries} {key : String} (content : Option String)
    (holds : given.get? key = content.map Value.text) (value : Value)
    (proper : RuntimeObject.properValue? given key = some value) : value.IsWritable := by
  rw [RuntimeObject.properValue?, holds] at proper
  cases content with
  | none => cases proper
  | some content =>
      obtain ⟨-, rfl⟩ : (Value.text content).truthy = true ∧ Value.text content = value := by
        simpa using proper
      exact Value.isWritable_text content

theorem folder_isPlan : IsPlan [("item", item)] [.map folder] folderPlan := by
  have fits (given : Entries) (distinct : given.Distinct)
      (typed : RuntimeObject.properValue? given DescriptorKeys.standard.type =
        some (.text "item"))
      (id name : Option String)
      (id_eq : given.get? DescriptorKeys.standard.id = id.map Value.text)
      (name_eq : given.get? DescriptorKeys.standard.name = name.map Value.text) :
      Blueprint.Fits [("item", item)] ⟨item, given⟩ := by
    have unreserved : ∀ key ∈ reservedKeys, item.defaults.get? key = none := by decide
    refine ⟨distinct, ?_, unreserved, writable_of_text id id_eq, writable_of_text name name_eq⟩
    simp only [typed]
    exact ⟨"item", rfl, rfl⟩
  have leaf : IsPlan [("item", item)] [.map clip]
      (.cons ⟨.plain scribeWords, clip⟩ .nil .nil) :=
    .cons ⟨Entries.distinct_ofTexts (by decide), rfl, by decide, writable_of_text (some "c") rfl,
      writable_of_text none rfl⟩ rfl .nil .nil
  have last : IsPlan [("item", item)] [.map cover] (.cons ⟨item, cover⟩ .nil .nil) :=
    .cons (fits cover (Entries.distinct_ofTexts (by decide)) rfl (some "d") (some "last") rfl rfl)
      rfl .nil .nil
  have middle : IsPlan [("item", item)] [.map sheet, .map cover] _ :=
    .cons (fits sheet (Entries.distinct_ofTexts (by decide)) rfl none none rfl rfl) rfl leaf last
  exact .cons (fits folder (Entries.distinct_ofTexts (by decide)) rfl (some "a") none rfl rfl)
    rfl middle .nil

/-- No generated id is as short as those of the folder. -/
theorem archive_awaits : World.Awaits 0 folderPlan.givenIds archive where
  known := by decide +kernel
  listed := by decide +kernel
  ids_nodup := by decide +kernel
  ids_free := by decide +kernel
  fresh_free := fun number _ => by
    have long : 5 ≤ (World.freshId number).length := by
      have start : "auto-".length = 5 := rfl
      rw [World.freshId, String.length_append, start]
      omega
    have objects_eq : (archive.moduleOf 0).registry.objects = [("z", 0)] := by decide +kernel
    have ids_eq : folderPlan.givenIds = ["a", "c", "d"] := by decide +kernel
    have apart (id : String) (short : id.length = 1) : World.freshId number ≠ id := by
      rintro rfl
      omega
    refine ⟨?_, ?_⟩
    · simp [Registry.has, objects_eq, Table.has, Table.get?, (apart "z" rfl).symm]
    · simp [ids_eq, apart "a" rfl, apart "c" rfl, apart "d" rfl]

/-- The item without an id gets a generated one, the object without a type does not listen
to frames, and the folder acts last, with both items below it. -/
theorem World.create_plants_folder :
    IsPlan (archive.moduleOf 0).classes [.map folder] folderPlan ∧
      World.Awaits 0 folderPlan.givenIds archive ∧
        ∃ handle final sites,
          (World.create scribe 0 (.map folder)).run archive = .ok handle final ∧
            sites.map Site.plan = folderPlan ∧ sites.tops = [handle] ∧
              World.Planted scribe 0 (archive.context 0) none archive sites final ∧
                (final.moduleOf 0).registry =
                    ⟨[("z", 0), ("a", 1), ("auto-1", 2), ("c", 3), ("d", 4)],
                      [("z", 0), ("a", 1), ("auto-1", 2), ("d", 4)]⟩ ∧
                  final.memory = [(0, []), (2, [3]), (4, []), (1, [2, 4])] := by
  have isPlan : IsPlan (archive.moduleOf 0).classes [.map folder] folderPlan := folder_isPlan
  obtain ⟨handle, final, sites, ran, plan_eq, tops_eq, -, -, planted⟩ :=
    World.create_plants (scribe_considerate 0) isPlan archive_awaits
  refine ⟨isPlan, archive_awaits, handle, final, sites, ran, plan_eq, tops_eq, planted, ?_⟩
  rw [← World.after_of_ok ran]
  decide +kernel

/-! ## Creations that do not build what is described -/

/-- A creation without a type fails at once if the id that is given cannot be written out. -/
theorem World.create_run_of_unwritable {V : Vocabulary} (host : Host V) (place : Nat)
    {given : Entries} {id : Value} (world : World V)
    (untyped : RuntimeObject.properValue? given DescriptorKeys.standard.type = none)
    (isId : RuntimeObject.properValue? given DescriptorKeys.standard.id = some id)
    (unwritable : ¬ id.IsWritable) :
    ∃ cause, (World.create host place (.map given)).run world =
      .error (.illegal cause) world := by
  have found : resolve (world.moduleOf place) given = .ok (.plain V, given) := by
    rw [resolve, untyped]
  let context := world.context (world.moduleOf place).context
  rcases construct_cases (.plain V) given context.verbs (some context.hub) world with
    ⟨cause, refused⟩ | ⟨object, ids, built, -⟩
  · refine ⟨cause, (createWithin_run rfl found).trans ?_⟩
    rw [createOf_eq, enter]
    exact run_bind_error (run_bind_error refused)
  · obtain ⟨id', type, name, written, -⟩ := ofDescriptor_eq_ok_iff.mp built
    rw [RuntimeObject.entryText, isId] at written
    exact absurd (Value.toText_eq_ok_iff.mp written).1 unwritable

/-- A host whose objects spill their ink when they are created. -/
def blotter : Host scribeWords where
  callback := nofun
  handler := nofun
  verb := nofun
  ticker _ _ _ := pure ()
  hook _ handle := Effect.updateObject handle fun object =>
    { object with data := Entries.ofTexts [("ink", .text "spilt")] }

/-- The descriptor of an object that has nothing but a number for an id. -/
def numbered (number : Int) : Entries := Entries.ofTexts [("_id", .int number)]

theorem numbered_id {number : Int} (nonzero : number ≠ 0) :
    RuntimeObject.properValue? (numbered number) DescriptorKeys.standard.id =
      some (.int number) := by
  have holds : (numbered number).get? DescriptorKeys.standard.id = some (.int number) := rfl
  have truthy : (Value.int number).truthy = true := by
    simpa [Value.truthy] using nonzero
  rw [RuntimeObject.properValue?, holds]
  exact if_pos truthy

/-- The descriptor of an object with a number for an id, and below it another one with the text
of that number for an id. -/
def twins : Entries :=
  Entries.ofTexts
    [("_id", .int 1), ("_children", .list [.map (Entries.ofTexts [("_id", .text "1")])])]

/-- Of two objects whose ids are written alike, only the second one is registered. -/
theorem World.create_twins :
    ∃ handle final, (World.create blotter 0 (.map twins)).run archive = .ok handle final ∧
      (archive.moduleOf 0).registry.objects = [("z", 0)] ∧
        (final.moduleOf 0).registry.objects = [("z", 0), ("1", 2)] := by
  have returns :
      World.returnsWith (World.create blotter 0 (.map twins)) archive (fun _ _ => true) =
        true := by
    decide +kernel
  obtain ⟨handle, final, outcome, -⟩ := World.exists_ok_of_returnsWith returns
  refine ⟨handle, final, outcome, ?_⟩
  rw [← World.after_of_ok outcome]
  decide +kernel

/-- No hook fails here.  But the hook of the items changes their data, and then they are not
what is described.  A descriptor whose id cannot be written out describes nothing that could
be built, and of two ids that are written alike the second one replaces the first. -/
theorem World.create_not_plants_blotter :
    (∀ hook handle world, ∃ final, (blotter.hook hook handle).run world = .ok () final) ∧
      IsPlan (archive.moduleOf 0).classes [.map folder] folderPlan ∧
        World.Awaits 0 folderPlan.givenIds archive ∧
          (¬ ∃ handle final sites,
            (World.create blotter 0 (.map folder)).run archive = .ok handle final ∧
              sites.map Site.plan = folderPlan ∧ sites.tops = [handle] ∧
                World.Planted blotter 0 (archive.context 0) none archive sites final) ∧
            (∃ cause, (World.create blotter 0
                (.map (numbered (10 ^ (digitLimit + 1))))).run archive =
              .error (.illegal cause) archive) ∧
            ∃ handle final,
              (World.create blotter 0 (.map twins)).run archive = .ok handle final ∧
                (archive.moduleOf 0).registry.objects = [("z", 0)] ∧
                  (final.moduleOf 0).registry.objects = [("z", 0), ("1", 2)] := by
  have spills : World.returnsWith (World.create blotter 0 (.map folder)) archive
      (fun handle final => ((final.object handle).data.get? "size").isNone) = true := by
    decide +kernel
  refine ⟨fun _ _ _ => ⟨_, rfl⟩, folder_isPlan, archive_awaits, ?_, ?_, create_twins⟩
  · rintro ⟨handle, final, sites, ran, plan_eq, tops_eq, planted⟩
    rw [returnsWith, ran] at spills
    cases sites with
    | nil => cases plan_eq
    | cons site below rest =>
        obtain ⟨isFolder, -, -⟩ := Grove.cons.inj plan_eq
        obtain ⟨isTop, -⟩ := List.cons.inj tops_eq
        have sized : (site.plan.data.get? "size").isSome = true := by
          rw [isFolder]
          decide +kernel
        have top := planted.bears.1
        rw [isTop] at top
        have spilt : (final.object handle).data.get? "size" = none :=
          Option.isNone_iff_eq_none.mp spills
        rw [top, Site.object] at spilt
        rw [spilt] at sized
        cases sized
  · exact create_run_of_unwritable blotter 0 archive rfl (numbered_id (pow_ne_zero _ (by decide)))
      (Value.not_isWritable_pow (Nat.le_succ digitLimit))

end CommandHost
