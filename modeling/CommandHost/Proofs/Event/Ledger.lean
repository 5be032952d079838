import CommandHost.Event.Bus
import Mathlib.Data.List.Nodup

/-!
# The ledger of a bus

A bus keeps two tables, one from events to listeners and one from listener ids to
events.  A `Ledger` is the same in one flat list: the registrations in order.
`Mirrors` says that the tables are those of a ledger, and each operation of the
bus is shown to do to the ledger what its name says: registering appends,
releasing deletes.

What the bus tells about itself, its counts and the names of its events, is then
read off the ledger in `Mirrors.tells`.
-/

namespace CommandHost

variable {κ : Type}

/-- The registrations of a bus, in order. -/
abbrev Ledger (κ : Type) := List (Listener κ)

namespace Ledger

/-- The registrations for an event. -/
def ofEvent (ledger : Ledger κ) (event : String) : Ledger κ :=
  ledger.filter fun listener => listener.event = event

/-- The registrations without those of some ids. -/
def without (ledger : Ledger κ) (ids : List String) : Ledger κ :=
  ledger.filter fun listener => listener.id ∉ ids

/-- The registrations without those of an owner. An owner that counts as false owns
nothing. -/
def withoutOwner (ledger : Ledger κ) (owner : Value) : Ledger κ :=
  ledger.filter fun listener => !(owner.truthy && listener.owner.same owner)

/-- The bucket of an event: there is one only if the event has registrations. -/
def bucket? (ledger : Ledger κ) (event : String) : Option (List (Listener κ)) :=
  if (ledger.ofEvent event).isEmpty then none else some (ledger.ofEvent event)

theorem mem_ofEvent {ledger : Ledger κ} {event : String} {listener : Listener κ} :
    listener ∈ ledger.ofEvent event ↔ listener ∈ ledger ∧ listener.event = event := by
  simp [ofEvent]

theorem mem_without {ledger : Ledger κ} {ids : List String} {listener : Listener κ} :
    listener ∈ ledger.without ids ↔ listener ∈ ledger ∧ listener.id ∉ ids := by
  simp [without]

theorem ofEvent_without (ledger : Ledger κ) (ids : List String) (event : String) :
    (ledger.without ids).ofEvent event = (ledger.ofEvent event).without ids := by
  simp only [ofEvent, without, List.filter_filter, Bool.and_comm]

theorem without_nil (ledger : Ledger κ) : ledger.without [] = ledger := by
  simp [without]

theorem without_cons (ledger : Ledger κ) (id : String) (ids : List String) :
    ledger.without (id :: ids) = (ledger.without [id]).without ids := by
  simp only [without, List.filter_filter]
  apply List.filter_congr
  intro listener _
  simp [Bool.and_comm]

theorem bucket?_getD (ledger : Ledger κ) (event : String) :
    (ledger.bucket? event).getD [] = ledger.ofEvent event := by
  unfold bucket?
  by_cases empty : ledger.ofEvent event = []
  · simp [empty]
  · simp [empty]

end Ledger

/-- The two tables of a bus are those of a ledger. -/
structure Mirrors (bus : Bus κ) (ledger : Ledger κ) : Prop where
  /-- The bucket of an event is the ledger's, and it is there only if it is not empty. -/
  bucket : ∀ event, bus.buckets.get? event = ledger.bucket? event
  /-- The index leads from the ids of the ledger, in order, to their events. -/
  index : bus.index = ledger.map fun listener => (listener.id, listener.event)
  ids_nodup : (ledger.map Listener.id).Nodup
  events_nodup : bus.buckets.keys.Nodup

namespace Mirrors

variable {bus : Bus κ} {ledger : Ledger κ}

theorem empty : Mirrors (Bus.empty : Bus κ) [] where
  bucket _ := rfl
  index := rfl
  ids_nodup := List.nodup_nil
  events_nodup := List.nodup_nil

theorem listenersOf_eq (mirrors : Mirrors bus ledger) (event : String) :
    bus.listenersOf event = ledger.ofEvent event := by
  rw [Bus.listenersOf, mirrors.bucket, Ledger.bucket?_getD]

theorem index_has_iff (mirrors : Mirrors bus ledger) (id : String) :
    bus.index.has id = true ↔ ∃ listener ∈ ledger, listener.id = id := by
  rw [Table.has_iff_mem_keys, mirrors.index]
  simp [Table.keys]

theorem index_nodup (mirrors : Mirrors bus ledger) : bus.index.keys.Nodup := by
  simpa [mirrors.index, Table.keys, Function.comp_def] using mirrors.ids_nodup

theorem ofEvent_ids_nodup (mirrors : Mirrors bus ledger) (event : String) :
    ((ledger.ofEvent event).map Listener.id).Nodup :=
  mirrors.ids_nodup.sublist (List.filter_sublist.map _)

/-- An id of the ledger leads to the event of its registration. -/
theorem index_get? (mirrors : Mirrors bus ledger) {listener : Listener κ}
    (member : listener ∈ ledger) :
    bus.index.get? listener.id = some listener.event := by
  rw [← Table.mem_iff_get? mirrors.index_nodup, mirrors.index]
  exact List.mem_map.mpr ⟨listener, member, rfl⟩

theorem index_get?_eq_none (mirrors : Mirrors bus ledger) {id : String}
    (unknown : ∀ listener ∈ ledger, listener.id ≠ id) :
    bus.index.get? id = none := by
  have absent : ¬ bus.index.has id = true := by
    rw [mirrors.index_has_iff]
    rintro ⟨listener, member, same⟩
    exact unknown listener member same
  simpa [Table.has] using absent

/-- Two registrations of one id are the same. -/
theorem eq_of_id_eq (mirrors : Mirrors bus ledger) {left right : Listener κ}
    (leftMember : left ∈ ledger) (rightMember : right ∈ ledger)
    (same : left.id = right.id) : left = right :=
  List.inj_on_of_nodup_map mirrors.ids_nodup leftMember rightMember same

/-! ## Registering -/

theorem register (mirrors : Mirrors bus ledger) {listener : Listener κ}
    (fresh : ∀ other ∈ ledger, other.id ≠ listener.id) :
    Mirrors (bus.register listener) (ledger ++ [listener]) where
  bucket event := by
    rw [Bus.register, Table.get?_put, mirrors.listenersOf_eq, mirrors.bucket]
    by_cases same : event = listener.event
    · subst same
      simp [Ledger.bucket?, Ledger.ofEvent]
    · simp [Ledger.bucket?, Ledger.ofEvent, same, Ne.symm same]
  index := by
    have absent : bus.index.has listener.id = false := by
      simpa [Table.has] using mirrors.index_get?_eq_none fresh
    rw [Bus.register, Table.put_eq_append absent, mirrors.index]
    simp
  ids_nodup := by
    rw [List.map_append, List.map_singleton, List.nodup_append]
    refine ⟨mirrors.ids_nodup, List.nodup_singleton _, ?_⟩
    intro id member last lastMember
    obtain ⟨other, otherMember, rfl⟩ := List.mem_map.mp member
    rw [List.mem_singleton.mp lastMember]
    exact fresh other otherMember
  events_nodup := Table.nodup_keys_put mirrors.events_nodup _ _

/-! ## Releasing -/

/-- Where ids are distinct, deleting the first registration of an id deletes all of
them. -/
theorem eraseP_eq_without {listeners : List (Listener κ)}
    (distinct : (listeners.map Listener.id).Nodup) (id : String) :
    listeners.eraseP (fun listener => listener.id = id) =
      Ledger.without listeners [id] := by
  induction listeners with
  | nil => rfl
  | cons listener rest inductionHypothesis =>
      obtain ⟨notLater, restDistinct⟩ := List.nodup_cons.mp distinct
      by_cases same : listener.id = id
      · have restKept : Ledger.without rest [id] = rest := by
          refine List.filter_eq_self.mpr fun other member => ?_
          have different : other.id ≠ id := by
            rintro rfl
            exact notLater (same ▸ List.mem_map_of_mem member)
          simpa using different
        have dropped :
            Ledger.without (listener :: rest) [id] = Ledger.without rest [id] := by
          simp [Ledger.without, same]
        rw [List.eraseP_cons_of_pos (by simpa using same), dropped, restKept]
      · have kept :
            Ledger.without (listener :: rest) [id] =
              listener :: Ledger.without rest [id] := by
          simp [Ledger.without, same]
        rw [List.eraseP_cons_of_neg (by simpa using same), kept,
          inductionHypothesis restDistinct]

theorem get?_setBucket (buckets : Table (List (Listener κ))) (event other : String)
    (listeners : List (Listener κ)) :
    (Bus.setBucket buckets event listeners).get? other =
      if other = event then
        if listeners.isEmpty then none else some listeners
      else buckets.get? other := by
  unfold Bus.setBucket
  by_cases none : listeners.isEmpty = true
  · simp [none, Table.get?_erase]
  · simp [none, Table.get?_put]

/-- A registration that stays with its event when an id of another event goes. -/
theorem ofEvent_without_of_ne (mirrors : Mirrors bus ledger) {id event other : String}
    (known : bus.index.get? id = some event) (different : other ≠ event) :
    (ledger.without [id]).ofEvent other = ledger.ofEvent other := by
  rw [Ledger.ofEvent_without]
  refine List.filter_eq_self.mpr fun listener member => ?_
  obtain ⟨inLedger, rightEvent⟩ := Ledger.mem_ofEvent.mp member
  have differentId : listener.id ≠ id := by
    rintro rfl
    rw [mirrors.index_get? inLedger, Option.some.injEq] at known
    exact different (rightEvent.symm.trans known)
  simpa using differentId

theorem remove (mirrors : Mirrors bus ledger) (id : String) :
    Mirrors (bus.remove id) (ledger.without [id]) := by
  cases known : bus.index.get? id with
  | none =>
      have unchanged : ledger.without [id] = ledger := by
        refine List.filter_eq_self.mpr fun listener member => ?_
        have different : listener.id ≠ id := by
          rintro rfl
          simp [mirrors.index_get? member] at known
        simpa using different
      rw [Bus.remove_eq_self known, unchanged]
      exact mirrors
  | some event =>
      have bucketLeft :
          (bus.listenersOf event).eraseP (fun listener => listener.id = id) =
            Ledger.without (ledger.ofEvent event) [id] := by
        rw [mirrors.listenersOf_eq, eraseP_eq_without (mirrors.ofEvent_ids_nodup event)]
      have removed :
          bus.remove id =
            { buckets :=
                Bus.setBucket bus.buckets event
                  (Ledger.without (ledger.ofEvent event) [id])
              index := bus.index.erase id } := by
        simp only [Bus.remove, known, bucketLeft]
      rw [removed]
      refine ⟨fun other => ?_, ?_, ?_, ?_⟩
      · by_cases same : other = event
        · subst same
          simp [get?_setBucket, Ledger.bucket?, Ledger.ofEvent_without]
        · have kept := mirrors.ofEvent_without_of_ne known same
          simp [get?_setBucket, same, mirrors.bucket, Ledger.bucket?, kept]
      · simp only [mirrors.index, Table.erase, Ledger.without, List.filter_map]
        congr 1
        apply List.filter_congr
        intro listener _
        simp
      · exact mirrors.ids_nodup.sublist (List.filter_sublist.map _)
      · simp only [Bus.setBucket]
        split
        · exact Table.nodup_keys_erase mirrors.events_nodup event
        · exact Table.nodup_keys_put mirrors.events_nodup _ _

/-- Releasing ids one after the other deletes all of them from the ledger. -/
theorem removeAll (mirrors : Mirrors bus ledger) (ids : List String) :
    Mirrors (ids.foldl Bus.remove bus) (ledger.without ids) := by
  induction ids generalizing bus ledger with
  | nil => simpa [Ledger.without_nil] using mirrors
  | cons id rest inductionHypothesis =>
      rw [List.foldl_cons, Ledger.without_cons]
      exact inductionHypothesis (mirrors.remove id)

/-- Releasing ids keeps everybody else, in order. -/
theorem removeAll_keeps (mirrors : Mirrors bus ledger) (ids : List String) :
    (∀ event,
      (ids.foldl Bus.remove bus).listenersOf event =
        (bus.listenersOf event).filter fun listener => listener.id ∉ ids) ∧
      (ids.foldl Bus.remove bus).index =
        bus.index.filter fun entry => entry.1 ∉ ids := by
  have removed := mirrors.removeAll ids
  constructor
  · intro event
    rw [removed.listenersOf_eq, mirrors.listenersOf_eq, Ledger.ofEvent_without]
    rfl
  · rw [removed.index, mirrors.index, Ledger.without, List.filter_map]
    rfl

/-- Nothing of a released id is left. -/
theorem removeAll_gone (mirrors : Mirrors bus ledger) {ids : List String} {id : String}
    (released : id ∈ ids) :
    (ids.foldl Bus.remove bus).index.has id = false ∧
      ∀ event, ∀ left ∈ (ids.foldl Bus.remove bus).listenersOf event, left.id ≠ id := by
  have removed := mirrors.removeAll ids
  constructor
  · rw [← Bool.not_eq_true, removed.index_has_iff]
    rintro ⟨listener, member, rfl⟩
    exact (Ledger.mem_without.mp member).2 released
  · rintro event left member rfl
    rw [removed.listenersOf_eq] at member
    have inLedger := (Ledger.mem_ofEvent.mp member).1
    exact (Ledger.mem_without.mp inLedger).2 released

theorem mem_listeners (mirrors : Mirrors bus ledger) {listener : Listener κ} :
    listener ∈ bus.listeners ↔ listener ∈ ledger := by
  simp only [Bus.listeners, Table.values, List.mem_flatten, List.mem_map]
  constructor
  · rintro ⟨_, ⟨⟨event, bucket⟩, entryMember, rfl⟩, member⟩
    rw [Table.mem_iff_get? mirrors.events_nodup] at entryMember
    have listed : bus.listenersOf event = bucket := by
      simp [Bus.listenersOf, entryMember]
    rw [← listed, mirrors.listenersOf_eq] at member
    exact (Ledger.mem_ofEvent.mp member).1
  · intro member
    have inBucket : listener ∈ ledger.ofEvent listener.event :=
      Ledger.mem_ofEvent.mpr ⟨member, rfl⟩
    have present :
        bus.buckets.get? listener.event = some (ledger.ofEvent listener.event) := by
      rw [mirrors.bucket, Ledger.bucket?, if_neg]
      simpa using List.ne_nil_of_mem inBucket
    exact ⟨_, ⟨_, (Table.mem_iff_get? mirrors.events_nodup).mpr present, rfl⟩, inBucket⟩

theorem mem_ownedIds (mirrors : Mirrors bus ledger) {listener : Listener κ}
    (member : listener ∈ ledger) (owner : Value) :
    listener.id ∈ bus.ownedIds owner ↔
      owner.truthy = true ∧ listener.owner.same owner = true := by
  unfold Bus.ownedIds
  by_cases counts : owner.truthy = true
  · simp only [counts, if_true, List.mem_map, List.mem_filter, mirrors.mem_listeners,
      true_and]
    constructor
    · rintro ⟨other, ⟨otherMember, owned⟩, same⟩
      rwa [mirrors.eq_of_id_eq otherMember member same] at owned
    · intro owned
      exact ⟨listener, ⟨member, owned⟩, rfl⟩
  · simp [counts]

/-- The ids are collected first and released one by one; that deletes exactly the
registrations of the owner. -/
theorem removeOwner (mirrors : Mirrors bus ledger) (owner : Value) :
    Mirrors (bus.removeOwner owner) (ledger.withoutOwner owner) := by
  have same : ledger.without (bus.ownedIds owner) = ledger.withoutOwner owner := by
    unfold Ledger.without Ledger.withoutOwner
    apply List.filter_congr
    intro listener member
    rw [Bool.eq_iff_iff]
    simp [mirrors.mem_ownedIds member owner]
  rw [← same]
  exact mirrors.removeAll (bus.ownedIds owner)

end Mirrors

/-! ## What a bus tells about itself -/

/-- What a bus tells about itself is what its ledger says, and releasing an id that is
not in the ledger changes nothing. -/
structure Tells (bus : Bus κ) (ledger : Ledger κ) : Prop where
  listenersOf_eq : ∀ event, bus.listenersOf event = ledger.ofEvent event
  countOf_eq : ∀ event, bus.countOf event = (ledger.ofEvent event).length
  count_eq : bus.count = ledger.length
  hasListeners_iff : ∀ event,
    bus.hasListeners event = true ↔ ∃ listener ∈ ledger, listener.event = event
  mem_eventNames_iff : ∀ event,
    event ∈ bus.eventNames ↔ ∃ listener ∈ ledger, listener.event = event
  eventNames_nodup : bus.eventNames.Nodup
  remove_unknown : ∀ id,
    (∀ listener ∈ ledger, listener.id ≠ id) → bus.remove id = bus

theorem Mirrors.tells {bus : Bus κ} {ledger : Ledger κ} (mirrors : Mirrors bus ledger) :
    Tells bus ledger where
  listenersOf_eq := mirrors.listenersOf_eq
  countOf_eq event := by rw [Bus.countOf, mirrors.listenersOf_eq]
  count_eq := by simp [Bus.count, mirrors.index]
  hasListeners_iff event := by
    rw [Bus.hasListeners, mirrors.listenersOf_eq]
    simp [Ledger.ofEvent]
  mem_eventNames_iff event := by
    rw [Bus.eventNames, ← Table.has_iff_mem_keys, Table.has, mirrors.bucket]
    by_cases none : ledger.ofEvent event = []
    · simp only [Ledger.bucket?, none, List.isEmpty_nil, if_true, Option.isSome_none,
        Bool.false_eq_true, false_iff]
      rintro ⟨listener, member, same⟩
      have inBucket : listener ∈ ledger.ofEvent event :=
        Ledger.mem_ofEvent.mpr ⟨member, same⟩
      simp [none] at inBucket
    · obtain ⟨listener, member⟩ := List.exists_mem_of_ne_nil _ none
      have found := Ledger.mem_ofEvent.mp member
      simp only [Ledger.bucket?, List.isEmpty_iff, none, if_false, Option.isSome_some,
        true_iff]
      exact ⟨listener, found.1, found.2⟩
  eventNames_nodup := mirrors.events_nodup
  remove_unknown id unknown := Bus.remove_eq_self (mirrors.index_get?_eq_none unknown)

end CommandHost
