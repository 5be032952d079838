import CommandHost.Proofs.Object.Moves

/-!
# Which object an id means

An object that is created takes its id from whatever object had it.  So an id means the
last object that bears it, until that one is removed: an object that is in use is
registered under its own id exactly if no later object bears the same id.
-/

namespace CommandHost

variable {V : Vocabulary}

namespace Scene

variable {scene later : Scene} {base handle : Nat} {gone : List Nat}

/-- An object that is there and registered under its own id. -/
def IsRegistered (scene : Scene) (handle : Nat) : Prop :=
  handle < scene.count ∧ scene.registry.get? (scene.node handle).id = some handle

/-- A later object bears the id of an object. -/
def IsReplaced (scene : Scene) (handle : Nat) : Prop :=
  ∃ other, handle < other ∧ other < scene.count ∧
    (scene.node other).id = (scene.node handle).id

/-- The objects that are in use and not registered are those that were replaced. -/
def Succession (scene : Scene) : Prop :=
  ∀ handle < scene.count, (scene.node handle).disposed = false →
    (scene.IsRegistered handle ↔ ¬ scene.IsReplaced handle)

/-- Ids do not change, so later objects matter only if they are new. -/
theorem isReplaced_congr (count_eq : later.count = scene.count)
    (id_eq : ∀ other, (later.node other).id = (scene.node other).id) (handle : Nat) :
    later.IsReplaced handle ↔ scene.IsReplaced handle := by
  simp only [IsReplaced, count_eq, id_eq]

theorem isReplaced_enter (node : Node) (older : handle < scene.count) :
    (scene.enter node).IsReplaced handle ↔
      scene.IsReplaced handle ∨ node.id = (scene.node handle).id := by
  unfold IsReplaced
  rw [Keyed.enter_node scene node older]
  constructor
  · intro ⟨other, isLater, there, sameId⟩
    have reach : other < scene.count ∨ other = scene.count := Nat.lt_succ_iff_lt_or_eq.mp there
    rcases reach with otherOlder | isNew
    · rw [Keyed.enter_node scene node otherOlder] at sameId
      exact .inl ⟨other, isLater, otherOlder, sameId⟩
    · rw [isNew, Keyed.enter_newNode] at sameId
      exact .inr sameId
  · intro replaced
    rcases replaced with ⟨other, isLater, there, sameId⟩ | sameId
    · rw [← Keyed.enter_node scene node there] at sameId
      exact ⟨other, isLater, Nat.lt_succ_of_lt there, sameId⟩
    · refine ⟨scene.count, older, Nat.lt_succ_self scene.count, ?_⟩
      rw [Keyed.enter_newNode]
      exact sameId

theorem get?_enter (scene : Scene) (node : Node) (id : String) :
    (scene.enter node).registry.get? id =
      if id = node.id then some scene.count else scene.registry.get? id := by
  have newNode : (scene.push node).node scene.count = node := by simp [push, modify]
  simp only [enter, register, newNode]
  exact Registry.get?_add ..

theorem Keyed.get?_withdraw (keyed : scene.Keyed base) (id : String) :
    (scene.withdraw gone).registry.get? id = some handle ↔
      scene.registry.get? id = some handle ∧ handle ∉ gone := by
  have before : scene.registry.get? id = some handle ↔
      (id, handle) ∈ scene.registry.objects :=
    (Table.mem_iff_get? keyed.keys_nodup).symm
  have afterwards : (scene.withdraw gone).registry.get? id = some handle ↔
      (id, handle) ∈ (scene.withdraw gone).registry.objects :=
    (Table.mem_iff_get? (keyed.withdraw gone).keys_nodup).symm
  rw [before, afterwards, Scene.withdraw, Registry.without, List.mem_filter, decide_eq_true_iff]

namespace Succession

theorem enter (succession : scene.Succession) (node : Node) :
    (scene.enter node).Succession := by
  intro handle there inUse
  have reach : handle < scene.count ∨ handle = scene.count :=
    Nat.lt_succ_iff_lt_or_eq.mp there
  rcases reach with older | isNew
  · have node_eq := Keyed.enter_node scene node older
    have known := succession handle older (node_eq ▸ inUse)
    rw [isReplaced_enter node older]
    unfold IsRegistered at known ⊢
    rw [get?_enter, node_eq]
    -- With the id of the new object an older one is replaced and loses its entry.
    by_cases sameId : (scene.node handle).id = node.id
    · have isOther : scene.count ≠ handle := older.ne'
      simp [sameId, isOther]
    · have differentId : node.id ≠ (scene.node handle).id := Ne.symm sameId
      simp only [older, there, true_and] at known ⊢
      simp [sameId, differentId, known]
  · subst isNew
    have registered : (scene.enter node).IsRegistered scene.count := by
      refine ⟨there, ?_⟩
      rw [Keyed.enter_newNode, get?_enter, if_pos rfl]
    have last : ¬ (scene.enter node).IsReplaced scene.count := by
      intro ⟨other, isLater, otherThere, _⟩
      have bound : other < scene.count + 1 := otherThere
      omega
    exact iff_of_true registered last

theorem append (succession : scene.Succession) (parent child : Nat) :
    (scene.append parent child).Succession := by
  intro handle there inUse
  rw [append_disposed] at inUse
  have registered :
      (scene.append parent child).IsRegistered handle ↔ scene.IsRegistered handle := by
    unfold IsRegistered
    rw [append_id]
    rfl
  have count_eq : (scene.append parent child).count = scene.count := rfl
  have replaced := isReplaced_congr count_eq (append_id scene parent child) handle
  rw [registered, replaced]
  exact succession handle there inUse

theorem discard (succession : scene.Succession) (keyed : scene.Keyed base)
    (gone : List Nat) : (scene.discard gone).Succession := by
  intro handle there inUse
  have id_eq (other : Nat) : ((scene.discard gone).node other).id = (scene.node other).id :=
    retireAll_id scene gone other
  have disposed_eq : ((scene.discard gone).node handle).disposed =
      (decide (handle ∈ gone) || (scene.node handle).disposed) :=
    retireAll_disposed scene gone handle
  rw [inUse, eq_comm, Bool.or_eq_false_iff] at disposed_eq
  -- All that is gone is disposed, so what is in use afterwards kept its entry.
  have kept : handle ∉ gone := of_decide_eq_false disposed_eq.1
  have found : (scene.discard gone).registry.get? (scene.node handle).id = some handle ↔
      scene.registry.get? (scene.node handle).id = some handle ∧ handle ∉ gone :=
    (keyed.retireAll gone).get?_withdraw (scene.node handle).id
  have registered :
      (scene.discard gone).IsRegistered handle ↔ scene.IsRegistered handle := by
    unfold IsRegistered
    rw [id_eq, found, and_iff_left kept]
    rfl
  have count_eq : (scene.discard gone).count = scene.count := rfl
  have replaced := isReplaced_congr count_eq id_eq handle
  rw [registered, replaced]
  exact succession handle there disposed_eq.2

end Succession

end Scene

namespace World

variable {place : Nat} {world later : World V}

/-- Every move leaves the ids with the objects that came last. -/
theorem Move.succession (succession : (world.scene place).Succession)
    (move : Move place world later) : (later.scene place).Succession := by
  cases move with
  | entered known kind descriptor verbs =>
      rcases enter_cases known kind descriptor verbs (some (world.hubOf place)) with
        ⟨cause, refused⟩ | ⟨node, final, -, ran, finalScene⟩
      · rw [after_of_error refused]
        exact succession
      · rw [after_of_ok ran, finalScene]
        exact succession.enter node
  | @appended parent child parentThere childThere =>
      obtain ⟨final, ran, finalScene⟩ := append_scene place parentThere childThere
      rw [after_of_ok ran, finalScene]
      exact succession.append parent child
  | discarded known sound there =>
      obtain ⟨final, gone, ran, finalScene, -⟩ :=
        discard_scene sound.forest sound.keyed known (Nat.zero_le _) there
      rw [after_of_ok ran, finalScene]
      exact succession.discard sound.keyed gone
  | acted act =>
      rw [act.sameStock.scene_eq place]
      exact succession

end World

end CommandHost
