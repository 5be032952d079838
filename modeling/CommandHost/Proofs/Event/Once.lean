import CommandHost.Proofs.Event.Refinement

/-!
# Listeners for one delivery

A listener for one delivery is released when the pass that called it is over.  Until
then it is on the bus, and a fire of its event from inside that pass finds it there.  If
the pass is broken off, it stays there for good.  How often a listener is called is
counted by the passes that begin with it, and such a listener is called again only if one
of them begins while another is in progress or after another was broken off; unless one
is broken off before it comes to the listener, it is called again for certain then.
-/

namespace CommandHost

variable {κ : Type}

/-! ## Counting calls and passes -/

/-- Whether a moment is a call of the listener of an id. -/
def Moment.isCall (id : String) (moment : Moment κ) : Bool :=
  match moment.deed with
  | .called other _ => other = id
  | _ => false

/-- Whether at a moment a pass begins that the listener of an id is in. -/
def Moment.beginsWith (id : String) (moment : Moment κ) : Bool :=
  match moment.deed with
  | .began event _ => id ∈ (moment.bus.listenersOf event).map Listener.id
  | _ => false

/-- How often the listener of an id is called. -/
def timesCalled (id : String) (moments : List (Moment κ)) : Nat :=
  moments.countP (Moment.isCall id)

/-- How many passes begin that the listener of an id is in. -/
def timesBegun (id : String) (moments : List (Moment κ)) : Nat :=
  moments.countP (Moment.beginsWith id)

/-- How many passes in progress will still call the listener of an id. -/
def Stage.timesWaiting (stage : Stage κ) (id : String) : Nat :=
  (stage.passes.flatMap fun pass => pass.waiting.map Listener.id).count id

/-- A history holds the registration of a listener. -/
def Registered (listener : Listener (Observed κ)) (history : List (Moment κ)) : Prop :=
  .registered listener ∈ history.map Moment.deed

/-- The ids that were given to listeners for one delivery. -/
def registeredOnce (history : List (Moment κ)) : List String :=
  history.flatMap fun moment =>
    match moment.deed with
    | .registered listener => onceIds [listener]
    | _ => []

/-- What the passes started with that are in progress or were broken off. -/
def Account.unfinished (account : Account κ) : List (Ledger (Observed κ)) :=
  account.started ++ account.broken

/-- At some moment a fire finds a listener on the bus with which a pass began that is
still in progress or was broken off. -/
def Reentered (listener : Listener (Observed κ)) (history : List (Moment κ)) : Prop :=
  ∃ past event payload bus future,
    history = past ++ ⟨.began event payload, bus⟩ :: future ∧
      listener ∈ bus.listenersOf event ∧
      ∃ started ∈ (Account.empty.afterAll past).unfinished, listener ∈ started

/-- No pass is broken off that began with the listener of an id. -/
def Unbroken (id : String) (history : List (Moment κ)) : Prop :=
  ∀ broken ∈ (Account.empty.afterAll history).broken, id ∉ broken.map Listener.id

theorem mem_registeredOnce {history : List (Moment κ)} {id : String} :
    id ∈ registeredOnce history ↔
      ∃ listener, Registered listener history ∧ listener.once = true ∧
        listener.id = id := by
  constructor
  · intro member
    obtain ⟨⟨deed, bus⟩, momentMember, isOnce⟩ := List.mem_flatMap.mp member
    cases deed with
    | registered listener =>
        obtain ⟨found, foundOnce, sameId⟩ := List.mem_map.mp isOnce
        obtain ⟨isListener, once⟩ := List.mem_filter.mp foundOnce
        rw [List.mem_singleton.mp isListener] at once sameId
        exact ⟨listener, List.mem_map.mpr ⟨_, momentMember, rfl⟩, once, sameId⟩
    | _ => exact absurd isOnce List.not_mem_nil
  · rintro ⟨listener, registered, once, rfl⟩
    obtain ⟨⟨deed, bus⟩, momentMember, rfl⟩ := List.mem_map.mp registered
    refine List.mem_flatMap.mpr ⟨_, momentMember, ?_⟩
    exact mem_onceIds (List.mem_singleton_self _) once

theorem timesCalled_concat (id : String) (past : List (Moment κ)) (moment : Moment κ) :
    timesCalled id (past ++ [moment]) =
      timesCalled id past + if moment.isCall id then 1 else 0 := by
  rw [timesCalled, timesCalled, List.countP_append, List.countP_singleton]

theorem timesBegun_concat (id : String) (past : List (Moment κ)) (moment : Moment κ) :
    timesBegun id (past ++ [moment]) =
      timesBegun id past + if moment.beginsWith id then 1 else 0 := by
  rw [timesBegun, timesBegun, List.countP_append, List.countP_singleton]

theorem timesBegun_pos_concat {id : String} {past : List (Moment κ)}
    {moment : Moment κ} :
    0 < timesBegun id (past ++ [moment]) ↔
      0 < timesBegun id past ∨ moment.beginsWith id = true := by
  rw [timesBegun_concat]
  by_cases begins : moment.beginsWith id = true
  · simp [begins]
  · simp [begins]

/-- If a predicate holds twice in a list, it holds somewhere behind a place where it
holds. -/
theorem exists_split_of_two_le_countP {α : Type} {holds : α → Bool} {items : List α}
    (twice : 2 ≤ items.countP holds) :
    ∃ past item future,
      items = past ++ item :: future ∧ 0 < past.countP holds ∧ holds item = true := by
  induction items with
  | nil => simp at twice
  | cons first rest inductionHypothesis =>
      by_cases firstHolds : holds first = true
      · have later : 0 < rest.countP holds := by
          rw [List.countP_cons_of_pos firstHolds] at twice
          omega
        obtain ⟨item, member, itemHolds⟩ := List.countP_pos_iff.mp later
        obtain ⟨between, future, rfl⟩ := List.append_of_mem member
        refine ⟨first :: between, item, future, rfl, ?_, itemHolds⟩
        rw [List.countP_cons_of_pos firstHolds]
        omega
      · rw [List.countP_cons_of_neg firstHolds] at twice
        obtain ⟨past, item, future, rfl, before, itemHolds⟩ := inductionHypothesis twice
        refine ⟨first :: past, item, future, rfl, ?_, itemHolds⟩
        rw [List.countP_cons_of_neg firstHolds]
        exact before

/-! ## What one deed changes -/

/-- A registration that is left was left before or is new. -/
theorem Account.mem_ledger_after {account : Account κ} {deed : Deed κ}
    {listener : Listener (Observed κ)}
    (member : listener ∈ (account.after deed).ledger) :
    listener ∈ account.ledger ∨ deed = .registered listener := by
  cases deed with
  | registered new =>
      rcases List.mem_append.mp member with old | isNew
      · exact .inl old
      · rw [List.mem_singleton.mp isNew]
        exact .inr rfl
  | removed id => exact .inl (Ledger.mem_without.mp member).1
  | removedOwner owner => exact .inl (List.mem_of_mem_filter member)
  | cleared => exact absurd member List.not_mem_nil
  | ended => exact .inl (Ledger.mem_without.mp member).1
  | began _ _ | called _ _ | abandoned => exact .inl member

/-- A pass that is unfinished was so before, or begins with the listeners of its event, unless
none was in progress. -/
theorem Account.mem_unfinished_after {account : Account κ} {deed : Deed κ}
    {started : Ledger (Observed κ)} (member : started ∈ (account.after deed).unfinished) :
    started ∈ account.unfinished ∨ started = [] ∨
      ∃ event payload, deed = .began event payload ∧
        started = account.ledger.ofEvent event := by
  obtain ⟨ledger, passes, broken⟩ := account
  cases deed with
  | began event payload =>
      rcases List.mem_cons.mp member with isNew | old
      · exact .inr (.inr ⟨event, payload, rfl, isNew⟩)
      · exact .inl old
  | ended =>
      refine .inl ((List.mem_append.mp member).elim (fun inProgress => ?_) fun wasBroken => ?_)
      · exact List.mem_append_left _ (List.mem_of_mem_tail inProgress)
      · exact List.mem_append_right _ wasBroken
  | abandoned =>
      cases passes with
      | nil =>
          rcases List.mem_cons.mp member with isNew | old
          · exact .inr (.inl isNew)
          · exact .inl old
      | cons innermost outer =>
          refine .inl ?_
          simp only [after, unfinished, List.tail_cons, List.headD_cons, List.mem_append,
            List.mem_cons] at member ⊢
          tauto
  | registered _ | removed _ | removedOwner _ | cleared | called _ _ =>
      exact .inl member

/-- While a listener for one delivery is left, so are the unfinished passes that began
with it. -/
theorem Account.unfinished_stays {account : Account κ} {deed : Deed κ}
    {listener : Listener (Observed κ)} (once : listener.once = true)
    (left : listener ∈ (account.after deed).ledger) {started : Ledger (Observed κ)}
    (before : started ∈ account.unfinished) (member : listener ∈ started) :
    started ∈ (account.after deed).unfinished := by
  obtain ⟨ledger, passes, broken⟩ := account
  cases deed with
  | began event payload => exact List.mem_cons_of_mem _ before
  | ended =>
      cases passes with
      | nil => exact before
      | cons innermost outer =>
          rcases List.mem_cons.mp before with rfl | older
          · exact absurd (mem_onceIds member once) (Ledger.mem_without.mp left).2
          · exact older
  | abandoned =>
      cases passes with
      | nil => exact List.mem_cons_of_mem _ before
      | cons innermost outer =>
          simp only [after, unfinished, List.tail_cons, List.headD_cons, List.mem_append,
            List.mem_cons] at before ⊢
          tauto
  | registered _ | removed _ | removedOwner _ | cleared | called _ _ =>
      exact before

/-- What was broken off stays so. -/
theorem Account.broken_subset_after (account : Account κ) (deed : Deed κ) :
    account.broken ⊆ (account.after deed).broken := by
  cases deed with
  | abandoned => exact List.subset_cons_self _ _
  | _ => exact List.Subset.refl _

namespace Stage

variable {stage final : Stage κ} {deed : Deed κ}

theorem Step.given_le (step : Step stage deed final) : stage.given ≤ final.given := by
  cases step with
  | register _ event name options => exact Nat.le_succ stage.given
  | _ => exact Nat.le_refl _

/-- A registration takes the next id. -/
theorem Step.registered {listener : Listener (Observed κ)}
    (step : Step stage (.registered listener) final) :
    listener.id = World.listenerId (stage.given + 1) ∧ final.given = stage.given + 1 := by
  cases step with
  | register _ event name options => exact ⟨rfl, rfl⟩

/-- A pass begins with the listeners that are on the bus. -/
theorem Step.beginsWith {id : String} (step : Step stage deed final)
    (begins : (⟨deed, final.bus⟩ : Moment κ).beginsWith id = true) :
    ∃ event payload, deed = .began event payload ∧ final.bus = stage.bus ∧
      ∃ listener ∈ stage.bus.listenersOf event, listener.id = id := by
  cases step with
  | begin _ event payload =>
      have member : id ∈ (stage.bus.listenersOf event).map Listener.id :=
        of_decide_eq_true begins
      obtain ⟨listener, listed, sameId⟩ := List.mem_map.mp member
      exact ⟨event, payload, rfl, rfl, listener, listed, sameId⟩
  | _ => exact absurd begins Bool.false_ne_true

end Stage

/-! ## The tally of a run -/

/-- What the history of a run and its stage say about each other. -/
structure Tally (past : List (Moment κ)) (stage : Stage κ) : Prop where
  agrees : Account.Agrees (Account.empty.afterAll past) stage
  /-- Whenever a listener is called or waits to be called, a pass began with it; and each pass
  that began with it and was not broken off called it or will still do so. -/
  calls : ∀ id, timesCalled id past + stage.timesWaiting id ≤ timesBegun id past ∧
    (Unbroken id past → timesCalled id past + stage.timesWaiting id = timesBegun id past)
  begun_given : ∀ id, 0 < timesBegun id past → Account.IsGiven stage.given id
  registered_given : ∀ listener, Registered listener past →
    Account.IsGiven stage.given listener.id
  registered_unique : ∀ left right, Registered left past → Registered right past →
    left.id = right.id → left = right
  ledger_registered : ∀ listener ∈ (Account.empty.afterAll past).ledger,
    Registered listener past
  unfinished_begun : ∀ started ∈ (Account.empty.afterAll past).unfinished,
    ∀ listener ∈ started, 0 < timesBegun listener.id past
  /-- A listener for one delivery that is left and that passes began with is in one
  that is still in progress or was broken off. -/
  pending : ∀ listener ∈ (Account.empty.afterAll past).ledger, listener.once = true →
    0 < timesBegun listener.id past →
      ∃ started ∈ (Account.empty.afterAll past).unfinished, listener ∈ started

namespace Tally

variable {past : List (Moment κ)} {stage final : Stage κ} {deed : Deed κ}

theorem empty (given : Nat) :
    Tally ([] : List (Moment κ)) ⟨.empty, given, []⟩ where
  agrees := .empty given
  calls _ := ⟨Nat.le_refl 0, fun _ => rfl⟩
  begun_given _ begun := absurd begun (Nat.lt_irrefl 0)
  registered_given _ registered := absurd registered List.not_mem_nil
  registered_unique _ _ registered := absurd registered List.not_mem_nil
  ledger_registered _ member := absurd member List.not_mem_nil
  unfinished_begun _ member := absurd member List.not_mem_nil
  pending _ member := absurd member List.not_mem_nil

theorem registered_concat {listener : Listener (Observed κ)} {moment : Moment κ} :
    Registered listener (past ++ [moment]) ↔
      Registered listener past ∨ .registered listener = moment.deed := by
  simp [Registered]

/-- Only a pass that begins makes a listener wait, and only a call ends that, or that the pass
is broken off, which then misses it. -/
theorem step_balance (tally : Tally past stage) (step : Stage.Step stage deed final)
    (id : String) :
    ∃ missed,
      timesCalled id (past ++ [⟨deed, final.bus⟩]) + final.timesWaiting id + missed +
          timesBegun id past =
        timesCalled id past + stage.timesWaiting id +
          timesBegun id (past ++ [⟨deed, final.bus⟩]) ∧
        (Unbroken id (past ++ [⟨deed, final.bus⟩]) → missed = 0) := by
  rw [timesCalled_concat, timesBegun_concat]
  cases step with
  | begin _ event payload =>
      have distinct : ((stage.bus.listenersOf event).map Listener.id).Nodup := by
        rw [tally.agrees.mirrors.listenersOf_eq]
        exact tally.agrees.mirrors.ofEvent_ids_nodup event
      have waits : ((stage.bus.listenersOf event).map Listener.id).count id =
          if id ∈ (stage.bus.listenersOf event).map Listener.id then 1 else 0 :=
        List.Nodup.count distinct
      refine ⟨0, ?_, fun _ => rfl⟩
      simp only [Moment.isCall, Moment.beginsWith, Stage.timesWaiting, Stage.newPass,
        List.flatMap_cons, List.count_append, waits, decide_eq_true_eq, Bool.false_eq_true,
        if_false]
      omega
  | call bus given pass listener rest outer =>
      have named : listener.callback.id = listener.id :=
        (tally.agrees.waiting_named _ List.mem_cons_self listener
          List.mem_cons_self).callback_id
      refine ⟨0, ?_, fun _ => rfl⟩
      simp only [Moment.isCall, Moment.beginsWith, Stage.timesWaiting, named,
        List.flatMap_cons, List.count_append, List.map_cons, List.count_cons,
        decide_eq_true_eq, beq_iff_eq, Bool.false_eq_true, if_false]
      omega
  | finish bus given pass outer =>
      exact ⟨0, by simp [Moment.isCall, Moment.beginsWith, Stage.timesWaiting], fun _ => rfl⟩
  | abandon bus given pass outer =>
      refine ⟨(pass.waiting.map Listener.id).count id, ?_, fun unbroken => ?_⟩
      · simp only [Moment.isCall, Moment.beginsWith, Stage.timesWaiting, List.flatMap_cons,
          List.count_append, Bool.false_eq_true, if_false]
        omega
      · have started : (Account.empty.afterAll past).started =
            pass.starting :: outer.map Pass.starting := tally.agrees.started_eq
        have absent : id ∉ pass.starting.map Listener.id := by
          refine unbroken pass.starting ?_
          rw [Account.afterAll_concat, Account.after, started]
          exact List.mem_cons_self
        refine List.count_eq_zero.mpr fun waits => absent ?_
        exact List.map_subset _ (tally.agrees.waiting_subset pass List.mem_cons_self) waits
  | _ => exact ⟨0, by simp [Moment.isCall, Moment.beginsWith, Stage.timesWaiting], fun _ => rfl⟩

theorem step_calls (tally : Tally past stage) (step : Stage.Step stage deed final)
    (id : String) :
    timesCalled id (past ++ [⟨deed, final.bus⟩]) + final.timesWaiting id ≤
        timesBegun id (past ++ [⟨deed, final.bus⟩]) ∧
      (Unbroken id (past ++ [⟨deed, final.bus⟩]) →
        timesCalled id (past ++ [⟨deed, final.bus⟩]) + final.timesWaiting id =
          timesBegun id (past ++ [⟨deed, final.bus⟩])) := by
  obtain ⟨atMost, exactly⟩ := tally.calls id
  obtain ⟨missed, balance, none⟩ := tally.step_balance step id
  refine ⟨by omega, fun unbroken => ?_⟩
  have before : Unbroken id past := by
    intro broken member
    refine unbroken broken ?_
    rw [Account.afterAll_concat]
    exact Account.broken_subset_after _ deed member
  have same := exactly before
  have nobody := none unbroken
  omega

/-- A listener of the event of a pass that begins is one that the pass begins with. -/
theorem beginsWith_of_mem {listener : Listener (Observed κ)} {event : String}
    {payload : Value} {bus : Bus (Observed κ)}
    (member : listener ∈ bus.listenersOf event) :
    (⟨.began event payload, bus⟩ : Moment κ).beginsWith listener.id = true :=
  decide_eq_true (List.mem_map_of_mem member)

theorem step_registered_unique (tally : Tally past stage)
    (step : Stage.Step stage deed final) (left right : Listener (Observed κ))
    (leftRegistered : Registered left (past ++ [⟨deed, final.bus⟩]))
    (rightRegistered : Registered right (past ++ [⟨deed, final.bus⟩]))
    (same : left.id = right.id) : left = right := by
  have distinct (old new : Listener (Observed κ)) (isOld : Registered old past)
      (isNew : .registered new = deed) : old.id ≠ new.id := by
    subst isNew
    rw [step.registered.1]
    exact (tally.registered_given old isOld).ne_next
  rcases registered_concat.mp leftRegistered with leftOld | leftNew
  · rcases registered_concat.mp rightRegistered with rightOld | rightNew
    · exact tally.registered_unique left right leftOld rightOld same
    · exact absurd same (distinct left right leftOld rightNew)
  · rcases registered_concat.mp rightRegistered with rightOld | rightNew
    · exact absurd same.symm (distinct right left rightOld leftNew)
    · exact Deed.registered.inj (leftNew.trans rightNew.symm)

theorem step_unfinished_begun (tally : Tally past stage)
    (step : Stage.Step stage deed final) {started : Ledger (Observed κ)}
    (unfinished : started ∈ ((Account.empty.afterAll past).after deed).unfinished)
    {listener : Listener (Observed κ)} (member : listener ∈ started) :
    0 < timesBegun listener.id (past ++ [⟨deed, final.bus⟩]) := by
  rw [timesBegun_pos_concat]
  rcases Account.mem_unfinished_after unfinished with old | rfl | ⟨event, payload, rfl, rfl⟩
  · exact .inl (tally.unfinished_begun started old listener member)
  · exact absurd member List.not_mem_nil
  · cases step with
    | begin =>
        rw [← tally.agrees.mirrors.listenersOf_eq] at member
        exact .inr (beginsWith_of_mem member)

/-- A pass that begins while a listener for one delivery is left begins with it, and a
pass that ends releases it; otherwise the passes stay unfinished. -/
theorem step_pending (tally : Tally past stage) (step : Stage.Step stage deed final)
    {listener : Listener (Observed κ)}
    (left : listener ∈ ((Account.empty.afterAll past).after deed).ledger)
    (once : listener.once = true)
    (begun : 0 < timesBegun listener.id (past ++ [⟨deed, final.bus⟩])) :
    ∃ started ∈ ((Account.empty.afterAll past).after deed).unfinished,
      listener ∈ started := by
  rcases timesBegun_pos_concat.mp begun with before | now
  · rcases Account.mem_ledger_after left with old | rfl
    · obtain ⟨started, unfinished, member⟩ := tally.pending listener old once before
      exact ⟨started, Account.unfinished_stays once left unfinished member, member⟩
    · have given := tally.begun_given listener.id before
      exact absurd step.registered.1 given.ne_next
  · obtain ⟨event, payload, rfl, _, other, listed, sameId⟩ := step.beginsWith now
    rw [tally.agrees.mirrors.listenersOf_eq] at listed
    have same : other = listener :=
      tally.agrees.mirrors.eq_of_id_eq (Ledger.mem_ofEvent.mp listed).1 left sameId
    exact ⟨_, List.mem_cons_self, same ▸ listed⟩

theorem step (tally : Tally past stage) (step : Stage.Step stage deed final) :
    Tally (past ++ [⟨deed, final.bus⟩]) final := by
  have account :
      Account.empty.afterAll (past ++ [⟨deed, final.bus⟩]) =
        (Account.empty.afterAll past).after deed :=
    Account.afterAll_concat _ _ _
  refine ⟨?_, tally.step_calls step, ?_, ?_, tally.step_registered_unique step, ?_, ?_,
    ?_⟩
  · rw [account]
    exact tally.agrees.step step
  · intro id begun
    rcases timesBegun_pos_concat.mp begun with before | now
    · exact (tally.begun_given id before).mono step.given_le
    · obtain ⟨event, _, _, _, listener, listed, rfl⟩ := step.beginsWith now
      rw [tally.agrees.mirrors.listenersOf_eq] at listed
      have named := tally.agrees.ledger_named listener (Ledger.mem_ofEvent.mp listed).1
      exact named.isGiven.mono step.given_le
  · intro listener registered
    rcases registered_concat.mp registered with before | rfl
    · exact (tally.registered_given listener before).mono step.given_le
    · obtain ⟨isNext, given⟩ := step.registered
      exact ⟨stage.given + 1, Nat.le_of_eq given.symm, isNext⟩
  · rw [account]
    intro listener left
    rcases Account.mem_ledger_after left with old | rfl
    · exact registered_concat.mpr (.inl (tally.ledger_registered listener old))
    · exact registered_concat.mpr (.inr rfl)
  · rw [account]
    intro started unfinished listener member
    exact tally.step_unfinished_begun step unfinished member
  · rw [account]
    intro listener left once begun
    exact tally.step_pending step left once begun

/-- The tally holds at every stage of a run. -/
theorem steps (tally : Tally past stage) {moments : List (Moment κ)}
    (steps : Stage.Steps stage moments final) : Tally (past ++ moments) final := by
  induction steps generalizing past with
  | nil stage => simpa using tally
  | cons step _ inductionHypothesis =>
      rw [← List.singleton_append, ← List.append_assoc]
      exact inductionHypothesis (tally.step step)

end Tally

/-! ## Called again -/

/-- A run in which two passes begin with a listener for one delivery is one in which
such a pass begins while another is unfinished. -/
theorem Stage.Steps.two_le_timesBegun_iff {given : Nat} {final : Stage κ}
    {history : List (Moment κ)} (steps : Stage.Steps ⟨.empty, given, []⟩ history final)
    {listener : Listener (Observed κ)} (registered : Registered listener history)
    (once : listener.once = true) :
    2 ≤ timesBegun listener.id history ↔ Reentered listener history := by
  constructor
  · intro twice
    obtain ⟨past, ⟨deed, bus⟩, future, rfl, before, begins⟩ :=
      exists_split_of_two_le_countP twice
    obtain ⟨stage, after, earlier, step, rfl, _⟩ := steps.split
    have tally := (Tally.empty given).steps earlier
    have whole := (Tally.empty given).steps steps
    rw [List.nil_append] at tally whole
    obtain ⟨event, payload, rfl, sameBus, other, listed, sameId⟩ := step.beginsWith begins
    have left : other ∈ (Account.empty.afterAll past).ledger := by
      rw [tally.agrees.mirrors.listenersOf_eq] at listed
      exact (Ledger.mem_ofEvent.mp listed).1
    have otherRegistered :
        Registered other (past ++ ⟨.began event payload, after.bus⟩ :: future) := by
      rw [Registered, List.map_append]
      exact List.mem_append_left _ (tally.ledger_registered other left)
    have same : other = listener :=
      whole.registered_unique other listener otherRegistered registered sameId
    subst same
    refine ⟨past, event, payload, after.bus, future, rfl, ?_, ?_⟩
    · rw [sameBus]
      exact listed
    · exact tally.pending other left once before
  · rintro ⟨past, event, payload, bus, future, rfl, listed, started, unfinished, member⟩
    obtain ⟨stage, _, earlier, _⟩ := steps.split
    have tally := (Tally.empty given).steps earlier
    rw [List.nil_append] at tally
    have before : 0 < past.countP (Moment.beginsWith listener.id) :=
      tally.unfinished_begun started unfinished listener member
    have now :
        (⟨.began event payload, bus⟩ : Moment κ).beginsWith listener.id = true :=
      Tally.beginsWith_of_mem listed
    rw [timesBegun, List.countP_append, List.countP_cons_of_pos now]
    omega

/-- In every run a listener for one delivery is called at most once, unless its event is fired
while it is still on the bus and a pass that it is in is in progress or was broken off; and if
no pass is broken off that it is in, it is called again in just that case. -/
theorem Code.timesCalled_le_one_iff (code : Code κ) (behaviour : Behaviour κ)
    (depth : Nat) {hub : Nat} {world : World (observed κ)} (isNew : IsNew hub world)
    {listener : Listener (Observed κ)}
    (registered : Registered listener (code.history behaviour depth hub world))
    (once : listener.once = true) :
    (¬ Reentered listener (code.history behaviour depth hub world) →
      timesCalled listener.id (code.history behaviour depth hub world) ≤ 1) ∧
      (Unbroken listener.id (code.history behaviour depth hub world) →
        (timesCalled listener.id (code.history behaviour depth hub world) ≤ 1 ↔
          ¬ Reentered listener (code.history behaviour depth hub world))) := by
  have steps := isNew.steps code behaviour depth
  obtain ⟨atMost, exactly⟩ :=
    ((Tally.empty world.listenerIds).steps steps).calls listener.id
  have nobodyWaits (bus : Bus (Observed κ)) (given : Nat) :
      (⟨bus, given, []⟩ : Stage κ).timesWaiting listener.id = 0 := rfl
  rw [List.nil_append, World.stage, nobodyWaits, Nat.add_zero] at atMost exactly
  rw [← steps.two_le_timesBegun_iff registered once]
  refine ⟨fun notTwice => by omega, fun unbroken => ?_⟩
  rw [exactly unbroken]
  omega

/-- A listener that releases itself before it fires its event again. -/
def careful : Behaviour Unit := fun who _ => .release who.id (.fire "e" .null fun _ => .done)

/-- A listener for one delivery, and one delivery. -/
def oneDelivery : Code Unit :=
  .listen "e" () ⟨true, .null, .null⟩ fun _ => .fire "e" .null fun _ => .done

theorem Code.timesCalled_le_one_iff_careful :
    IsNew 0 (World.start .standard [] [] : World (observed Unit)) ∧
      ∃ listener : Listener (Observed Unit),
        Registered listener
            (oneDelivery.history careful 1 0 (.start .standard [] [])) ∧
          listener.once = true ∧
          Unbroken listener.id (oneDelivery.history careful 1 0 (.start .standard [] [])) ∧
          timesCalled listener.id
              (oneDelivery.history careful 1 0 (.start .standard [] [])) = 1 ∧
          ¬ Reentered listener
            (oneDelivery.history careful 1 0 (.start .standard [] [])) := by
  have isNew : IsNew 0 (World.start .standard [] [] : World (observed Unit)) :=
    ⟨by decide, rfl, rfl⟩
  have registeredIds :
      "listener-1" ∈
        registeredOnce (oneDelivery.history careful 1 0 (.start .standard [] [])) := by
    decide +kernel
  have called :
      timesCalled "listener-1"
        (oneDelivery.history careful 1 0 (.start .standard [] [])) = 1 := by
    decide +kernel
  obtain ⟨listener, registered, once, isListener⟩ := mem_registeredOnce.mp registeredIds
  have unbroken :
      (Account.empty.afterAll
        (oneDelivery.history careful 1 0 (.start .standard [] []))).broken.isEmpty = true := by
    decide +kernel
  have whole : Unbroken listener.id
      (oneDelivery.history careful 1 0 (.start .standard [] [])) := by
    rw [Unbroken, List.isEmpty_iff.mp unbroken]
    exact nofun
  rw [← isListener] at called
  refine ⟨isNew, listener, registered, once, whole, called, ?_⟩
  exact ((Code.timesCalled_le_one_iff oneDelivery careful 1 isNew registered once).2 whole).mp
    (Nat.le_of_eq called)

/-- A listener that may insist on a second delivery. -/
def insistent : Behaviour Bool := fun who payload =>
  if who.name && payload.truthy then .fire "e" .null fun _ => .done else .done

/-- A listener for one delivery, one behind it that insists, and one delivery. -/
def twoDeliveries : Code Bool :=
  .listen "e" false ⟨true, .null, .null⟩ fun _ =>
    .listen "e" true .standard fun _ => .fire "e" (.text "first") fun _ => .done

/-- The listener for one delivery has returned when its neighbour fires the event again,
and is called a second time. -/
theorem insistent_timesCalled :
    ∃ listener : Listener (Observed Bool),
      Registered listener
          (twoDeliveries.history insistent 2 0 (.start .standard [] [])) ∧
        listener.once = true ∧
        timesCalled listener.id
          (twoDeliveries.history insistent 2 0 (.start .standard [] [])) = 2 := by
  have registeredIds :
      "listener-1" ∈
        registeredOnce
          (twoDeliveries.history insistent 2 0 (.start .standard [] [])) := by
    decide +kernel
  have called :
      timesCalled "listener-1"
        (twoDeliveries.history insistent 2 0 (.start .standard [] [])) = 2 := by
    decide +kernel
  obtain ⟨listener, registered, once, isListener⟩ := mem_registeredOnce.mp registeredIds
  exact ⟨listener, registered, once, isListener ▸ called⟩

end CommandHost
