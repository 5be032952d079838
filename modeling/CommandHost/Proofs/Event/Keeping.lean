import CommandHost.Proofs.Event.Ledger

/-!
# A bus with some of its listeners

`Bus.keep` leaves of a bus the listeners that pass a test, with both tables in their
order.  Releasing an id, releasing ids one after the other, and releasing an owner are
all of this form, as long as the bus is that of a ledger; and a listener that does not
pass the test makes no difference when it is registered.  These are equations between
buses, so that a bus can be said to be the same as before.
-/

namespace CommandHost

variable {κ : Type}

namespace Bus

/-- What is left of the bucket of an event. -/
def keepBucket? (kept : Listener κ → Bool) (entry : String × List (Listener κ)) :
    Option (String × List (Listener κ)) :=
  let left := entry.2.filter kept
  if left.isEmpty then none else some (entry.1, left)

/-- The bus with those of its listeners that pass a test. -/
def keep (bus : Bus κ) (kept : Listener κ → Bool) : Bus κ where
  buckets := bus.buckets.filterMap (keepBucket? kept)
  index := bus.index.filter fun entry =>
    bus.listeners.all fun listener => decide (listener.id ≠ entry.1) || kept listener

variable {kept first second : Listener κ → Bool} {bus : Bus κ} {ledger : Ledger κ}

/-! ## Buckets -/

theorem keepBucket?_key {entry left : String × List (Listener κ)}
    (isLeft : keepBucket? kept entry = some left) :
    left = (entry.1, entry.2.filter kept) ∧ entry.2.filter kept ≠ [] := by
  unfold keepBucket? at isLeft
  by_cases empty : entry.2.filter kept = []
  · simp [empty] at isLeft
  · simp only [List.isEmpty_iff, empty, if_false, Option.some.injEq] at isLeft
    exact ⟨isLeft.symm, empty⟩

theorem keepBucket?_sameKey {entry left : String × List (Listener κ)}
    (isLeft : keepBucket? kept entry = some left) : left.1 = entry.1 := by
  rw [(keepBucket?_key isLeft).1]

/-- A bucket whose listeners are all kept stays as it is. -/
theorem keepBucket?_eq_some_self {entry : String × List (Listener κ)}
    (nonempty : entry.2 ≠ []) (all : ∀ listener ∈ entry.2, kept listener = true) :
    keepBucket? kept entry = some entry := by
  have same : entry.2.filter kept = entry.2 := List.filter_eq_self.mpr all
  simp [keepBucket?, same, nonempty]

theorem keepBucket?_congr {entry : String × List (Listener κ)}
    (same : ∀ listener ∈ entry.2, first listener = second listener) :
    keepBucket? first entry = keepBucket? second entry := by
  simp only [keepBucket?, List.filter_congr same]

theorem keepBucket?_bind (entry : String × List (Listener κ)) :
    (keepBucket? first entry).bind (keepBucket? second) =
      keepBucket? (fun listener => first listener && second listener) entry := by
  have both : entry.2.filter (fun listener => first listener && second listener) =
      (entry.2.filter first).filter second := by
    rw [List.filter_filter]
    exact List.filter_congr fun listener _ => Bool.and_comm ..
  unfold keepBucket?
  rw [both]
  by_cases empty : entry.2.filter first = []
  · simp [empty]
  · simp only [List.isEmpty_iff, empty, if_false, Option.bind_some]

/-- Where a test concerns one event, only its bucket changes. -/
theorem setBucket_eq_filterMap {buckets : Table (List (Listener κ))}
    (distinct : buckets.keys.Nodup) {event : String} {listeners : List (Listener κ)}
    (found : buckets.get? event = some listeners)
    (others : ∀ entry ∈ buckets, entry.1 ≠ event → keepBucket? kept entry = some entry) :
    setBucket buckets event (listeners.filter kept) =
      buckets.filterMap (keepBucket? kept) := by
  induction buckets with
  | nil => cases found
  | cons entry rest inductionHypothesis =>
      obtain ⟨name, bucket⟩ := entry
      obtain ⟨notLater, restDistinct⟩ := List.nodup_cons.mp distinct
      by_cases same : name = event
      · subst same
        have isBucket : bucket = listeners := by simpa [Table.get?] using found
        have different : ∀ entry ∈ rest, entry.1 ≠ name := by
          intro entry member sameKey
          have isKey : entry.1 ∈ rest.map Prod.fst := List.mem_map_of_mem member
          rw [sameKey] at isKey
          exact notLater isKey
        have restKept : rest.filterMap (keepBucket? kept) = rest := by
          rw [List.filterMap_congr fun entry member =>
            others entry (List.mem_cons_of_mem _ member) (different entry member)]
          exact List.filterMap_some
        have restLeft : rest.filter (fun entry => entry.1 ≠ name) = rest :=
          List.filter_eq_self.mpr fun entry member => decide_eq_true (different entry member)
        subst isBucket
        by_cases empty : bucket.filter kept = []
        · have dropped : keepBucket? kept (name, bucket) = none := by
            simp [keepBucket?, empty]
          rw [List.filterMap_cons_none dropped, restKept, setBucket, empty]
          simpa [Table.erase] using restLeft
        · have isLeft : keepBucket? kept (name, bucket) = some (name, bucket.filter kept) := by
            simp [keepBucket?, empty]
          rw [List.filterMap_cons_some isLeft, restKept, setBucket, if_neg (by simpa using empty)]
          simp [Table.put]
      · have foundLater : Table.get? rest event = some listeners := by
          simpa [Table.get?, same] using found
        have later := inductionHypothesis restDistinct foundLater fun entry member =>
          others entry (List.mem_cons_of_mem _ member)
        rw [List.filterMap_cons_some (others (name, bucket) List.mem_cons_self same), ← later]
        unfold setBucket
        by_cases empty : (listeners.filter kept).isEmpty = true
        · simp [empty, Table.erase, same]
        · simp [empty, Table.put, same]

/-- A bucket that is replaced by one of which the same is kept. -/
theorem filterMap_put {buckets : Table (List (Listener κ))} {event : String}
    {listeners : List (Listener κ)}
    (same : keepBucket? kept (event, listeners) =
      keepBucket? kept (event, (buckets.get? event).getD [])) :
    (buckets.put event listeners).filterMap (keepBucket? kept) =
      buckets.filterMap (keepBucket? kept) := by
  induction buckets with
  | nil =>
      have dropped : keepBucket? kept (event, listeners) = none := same
      rw [Table.put, List.filterMap_cons_none dropped]
  | cons entry rest inductionHypothesis =>
      obtain ⟨name, bucket⟩ := entry
      by_cases isEvent : name = event
      · subst isEvent
        have same : keepBucket? kept (name, listeners) = keepBucket? kept (name, bucket) := by
          simpa [Table.get?] using same
        simp only [Table.put, if_true, List.filterMap_cons, same]
      · have later := inductionHypothesis (by simpa [Table.get?, isEvent] using same)
        simp only [Table.put, isEvent, if_false, List.filterMap_cons, later]

/-! ## Keeping in steps -/

theorem listeners_keep (bus : Bus κ) (kept : Listener κ → Bool) :
    (bus.keep kept).listeners = bus.listeners.filter kept := by
  obtain ⟨buckets, index⟩ := bus
  simp only [listeners, keep, Table.values]
  induction buckets with
  | nil => rfl
  | cons entry rest inductionHypothesis =>
      rw [List.map_cons, List.flatten_cons, List.filter_append, ← inductionHypothesis]
      cases isLeft : keepBucket? kept entry with
      | none =>
          have empty : entry.2.filter kept = [] := by
            by_contra nonempty
            simp [keepBucket?, nonempty] at isLeft
          rw [List.filterMap_cons_none isLeft, empty, List.nil_append]
      | some left =>
          rw [List.filterMap_cons_some isLeft, (keepBucket?_key isLeft).1, List.map_cons,
            List.flatten_cons]

theorem keep_congr (same : ∀ listener ∈ bus.listeners, first listener = second listener) :
    bus.keep first = bus.keep second := by
  have buckets_eq : bus.buckets.filterMap (keepBucket? first) =
      bus.buckets.filterMap (keepBucket? second) := by
    refine List.filterMap_congr fun entry member => keepBucket?_congr fun listener isIn => ?_
    exact same listener (List.mem_flatten.mpr ⟨entry.2, List.mem_map_of_mem member, isIn⟩)
  have index_eq :
      (bus.index.filter fun entry => bus.listeners.all fun listener =>
        decide (listener.id ≠ entry.1) || first listener) =
      bus.index.filter fun entry => bus.listeners.all fun listener =>
        decide (listener.id ≠ entry.1) || second listener := by
    refine List.filter_congr fun entry _ => ?_
    rw [Bool.eq_iff_iff, List.all_eq_true, List.all_eq_true]
    exact forall₂_congr fun listener member => by rw [same listener member]
  rw [keep, keep, buckets_eq, index_eq]

theorem keep_keep (bus : Bus κ) (first second : Listener κ → Bool) :
    (bus.keep first).keep second =
      bus.keep fun listener => first listener && second listener := by
  have buckets_eq :
      (bus.buckets.filterMap (keepBucket? first)).filterMap (keepBucket? second) =
        bus.buckets.filterMap
          (keepBucket? fun listener => first listener && second listener) := by
    rw [List.filterMap_filterMap]
    exact List.filterMap_congr fun entry _ => keepBucket?_bind entry
  have index_eq :
      (bus.keep first).index.filter (fun entry =>
        (bus.keep first).listeners.all fun listener =>
          decide (listener.id ≠ entry.1) || second listener) =
      bus.index.filter fun entry => bus.listeners.all fun listener =>
        decide (listener.id ≠ entry.1) || (first listener && second listener) := by
    rw [listeners_keep, keep, List.filter_filter]
    refine List.filter_congr fun entry _ => ?_
    rw [Bool.eq_iff_iff]
    simp only [Bool.and_eq_true, List.all_eq_true, List.mem_filter, Bool.or_eq_true,
      decide_eq_true_eq]
    grind
  exact congrArg₂ Bus.mk buckets_eq index_eq

end Bus

/-! ## Releasing is keeping the others -/

namespace Mirrors

variable {bus : Bus κ} {ledger : Ledger κ} {kept : Listener κ → Bool}

theorem mem_bucket (mirrors : Mirrors bus ledger) {entry : String × List (Listener κ)}
    (member : entry ∈ bus.buckets) :
    entry.2 ≠ [] ∧ ∀ listener ∈ entry.2, listener ∈ ledger ∧ listener.event = entry.1 := by
  have found := (Table.mem_iff_get? mirrors.events_nodup).mp member
  rw [mirrors.bucket, Ledger.bucket?] at found
  by_cases empty : (ledger.ofEvent entry.1).isEmpty = true
  · rw [if_pos empty] at found
    cases found
  · rw [if_neg empty, Option.some.injEq] at found
    rw [← found]
    exact ⟨by simpa using empty, fun listener => Ledger.mem_ofEvent.mp⟩

/-- A registration passes the test of the index exactly if it is kept, since ids are
distinct. -/
theorem all_kept_iff (mirrors : Mirrors bus ledger) {listener : Listener κ}
    (member : listener ∈ ledger) :
    (bus.listeners.all fun other => decide (other.id ≠ listener.id) || kept other) =
      kept listener := by
  rw [Bool.eq_iff_iff, List.all_eq_true]
  constructor
  · intro all
    simpa using all listener (mirrors.mem_listeners.mpr member)
  · intro isKept other otherMember
    by_cases same : other.id = listener.id
    · have otherInLedger := mirrors.mem_listeners.mp otherMember
      rw [mirrors.eq_of_id_eq otherInLedger member same, isKept, Bool.or_true]
    · simp [same]

theorem keep (mirrors : Mirrors bus ledger) (kept : Listener κ → Bool) :
    Mirrors (bus.keep kept) (ledger.filter kept) where
  bucket event := by
    have ofEvent_eq : Ledger.ofEvent (ledger.filter kept) event =
        (ledger.ofEvent event).filter kept := by
      simp only [Ledger.ofEvent, List.filter_filter, Bool.and_comm]
    rw [Bus.keep, Table.get?_filterMap Bus.keepBucket?_sameKey mirrors.events_nodup,
      mirrors.bucket]
    unfold Ledger.bucket?
    rw [ofEvent_eq]
    by_cases empty : ledger.ofEvent event = []
    · simp [empty]
    · by_cases noneLeft : (ledger.ofEvent event).filter kept = []
      · simp only [List.isEmpty_iff, empty, if_false, Option.bind_some, Bus.keepBucket?,
          noneLeft, if_true, Option.map_none]
      · simp only [List.isEmpty_iff, empty, if_false, Option.bind_some, Bus.keepBucket?,
          noneLeft, Option.map_some]
  index := by
    rw [Bus.keep, mirrors.index, List.filter_map]
    refine congrArg (List.map _) (List.filter_congr fun listener member => ?_)
    exact mirrors.all_kept_iff member
  ids_nodup := mirrors.ids_nodup.sublist (List.filter_sublist.map _)
  events_nodup := mirrors.events_nodup.sublist
    (Table.keys_filterMap_sublist Bus.keepBucket?_sameKey bus.buckets)

/-- Keeping everybody changes nothing. -/
theorem keep_eq_self (mirrors : Mirrors bus ledger)
    (all : ∀ listener ∈ ledger, kept listener = true) : bus.keep kept = bus := by
  have buckets_eq : bus.buckets.filterMap (Bus.keepBucket? kept) = bus.buckets := by
    rw [List.filterMap_congr fun entry member =>
      Bus.keepBucket?_eq_some_self (mirrors.mem_bucket member).1 fun listener isIn =>
        all listener ((mirrors.mem_bucket member).2 listener isIn).1]
    exact List.filterMap_some
  have index_eq : (bus.index.filter fun entry => bus.listeners.all fun listener =>
      decide (listener.id ≠ entry.1) || kept listener) = bus.index := by
    refine List.filter_eq_self.mpr fun entry _ => List.all_eq_true.mpr fun listener isIn => ?_
    rw [all listener (mirrors.mem_listeners.mp isIn), Bool.or_true]
  exact congrArg₂ Bus.mk buckets_eq index_eq

theorem remove_eq_keep (mirrors : Mirrors bus ledger) (id : String) :
    bus.remove id = bus.keep fun listener => listener.id ∉ [id] := by
  cases known : bus.index.get? id with
  | none =>
      have others : ∀ listener ∈ ledger, decide (listener.id ∉ [id]) = true := by
        intro listener member
        have different : listener.id ≠ id := by
          rintro rfl
          simp [mirrors.index_get? member] at known
        simpa using different
      rw [Bus.remove_eq_self known, mirrors.keep_eq_self others]
  | some event =>
      have left_eq : (bus.listenersOf event).eraseP (fun listener => listener.id = id) =
          (ledger.ofEvent event).filter fun listener => listener.id ∉ [id] := by
        rw [mirrors.listenersOf_eq, eraseP_eq_without (mirrors.ofEvent_ids_nodup event)]
        rfl
      have isThere : bus.index.has id = true := by rw [Table.has, known]; rfl
      obtain ⟨listener, member, rfl⟩ := (mirrors.index_has_iff id).mp isThere
      have event_eq : event = listener.event :=
        Option.some.inj (known.symm.trans (mirrors.index_get? member))
      have inBucket : listener ∈ ledger.ofEvent event :=
        Ledger.mem_ofEvent.mpr ⟨member, event_eq.symm⟩
      have found : bus.buckets.get? event = some (ledger.ofEvent event) := by
        rw [mirrors.bucket, Ledger.bucket?, if_neg]
        simpa using List.ne_nil_of_mem inBucket
      have buckets_eq := Bus.setBucket_eq_filterMap mirrors.events_nodup found
        fun entry isEntry different =>
          Bus.keepBucket?_eq_some_self (mirrors.mem_bucket isEntry).1 fun other isIn => by
            obtain ⟨otherMember, otherEvent⟩ := (mirrors.mem_bucket isEntry).2 other isIn
            have otherId : other.id ≠ listener.id := fun sameId =>
              different (by
                rw [← otherEvent, mirrors.eq_of_id_eq otherMember member sameId, event_eq])
            show decide (other.id ∉ [listener.id]) = true
            simpa using otherId
      have index_eq : bus.index.erase listener.id = bus.index.filter fun entry =>
          bus.listeners.all fun other =>
            decide (other.id ≠ entry.1) || decide (other.id ∉ [listener.id]) := by
        rw [Table.erase, mirrors.index, List.filter_map, List.filter_map]
        refine congrArg (List.map _) (List.filter_congr fun other otherMember => ?_)
        have tested := @all_kept_iff _ _ _ (fun other => decide (other.id ∉ [listener.id]))
          mirrors other otherMember
        simpa using tested.symm
      simp only [Bus.remove, known, left_eq]
      exact congrArg₂ Bus.mk buckets_eq index_eq

/-- Releasing ids one after the other. -/
theorem foldl_remove_eq_keep (mirrors : Mirrors bus ledger) (ids : List String) :
    ids.foldl Bus.remove bus = bus.keep fun listener => listener.id ∉ ids := by
  induction ids generalizing bus ledger with
  | nil => exact (mirrors.keep_eq_self fun _ _ => rfl).symm
  | cons id rest inductionHypothesis =>
      rw [List.foldl_cons, inductionHypothesis (mirrors.remove id),
        mirrors.remove_eq_keep id, Bus.keep_keep]
      exact Bus.keep_congr fun listener _ => by simp

theorem removeOwner_eq_keep (mirrors : Mirrors bus ledger) (owner : Value) :
    bus.removeOwner owner =
      bus.keep fun listener => !(owner.truthy && listener.owner.same owner) := by
  rw [Bus.removeOwner, mirrors.foldl_remove_eq_keep]
  refine Bus.keep_congr fun listener member => ?_
  have isOwned := mirrors.mem_ownedIds (mirrors.mem_listeners.mp member) owner
  rw [Bool.eq_iff_iff]
  simp [isOwned]

/-- A listener that is not kept makes no difference. -/
theorem keep_register (mirrors : Mirrors bus ledger) {listener : Listener κ}
    (fresh : ∀ other ∈ ledger, other.id ≠ listener.id) (dropped : kept listener = false) :
    (bus.register listener).keep kept = bus.keep kept := by
  have registered := mirrors.register fresh
  have bucket_eq : Bus.keepBucket? kept
        (listener.event, bus.listenersOf listener.event ++ [listener]) =
      Bus.keepBucket? kept (listener.event, (bus.buckets.get? listener.event).getD []) := by
    simp [Bus.keepBucket?, Bus.listenersOf, List.filter_append, dropped]
  have absent : bus.index.has listener.id = false := by
    simpa [Table.has] using mirrors.index_get?_eq_none fresh
  have index_eq :
      (bus.register listener).index.filter (fun entry =>
        (bus.register listener).listeners.all fun other =>
          decide (other.id ≠ entry.1) || kept other) =
      bus.index.filter fun entry => bus.listeners.all fun other =>
        decide (other.id ≠ entry.1) || kept other := by
    have newFails : ((bus.register listener).listeners.all fun other =>
        decide (other.id ≠ listener.id) || kept other) = false := by
      rw [registered.all_kept_iff (List.mem_append_right _ List.mem_cons_self), dropped]
    have put_eq : (bus.register listener).index = bus.index ++ [(listener.id, listener.event)] :=
      Table.put_eq_append absent listener.event
    rw [put_eq, List.filter_append, List.filter_cons, newFails, if_neg Bool.false_ne_true,
      List.filter_nil, List.append_nil, mirrors.index, List.filter_map, List.filter_map]
    refine congrArg (List.map _) (List.filter_congr fun other member => ?_)
    have before := @all_kept_iff _ _ _ kept mirrors other member
    have afterwards :=
      @all_kept_iff _ _ _ kept registered other (List.mem_append_left _ member)
    exact afterwards.trans before.symm
  exact congrArg₂ Bus.mk (Bus.filterMap_put bucket_eq) index_eq

end Mirrors

end CommandHost
