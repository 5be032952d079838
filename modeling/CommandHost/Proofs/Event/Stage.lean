import CommandHost.Proofs.Event.Code
import CommandHost.Proofs.Event.Ledger

/-!
# The stages of a run

Between two moments of a run a bus is in some `Stage`: it holds listeners, so many
ids were given out, and some passes over listeners are in progress, the innermost
first.  `Step` says which deeds are possible at a stage and where they lead.

An `Account` is what the deeds alone say: the registrations that are left, and the
listeners that each pass started with which is in progress or was broken off.  `Account.Agrees` is the
invariant that ties the two together, and every step preserves it.
-/

namespace CommandHost

variable {κ : Type}

/-- The ids of those listeners that are for one delivery. -/
def onceIds (listeners : List (Listener κ)) : List String :=
  (listeners.filter Listener.once).map Listener.id

theorem mem_onceIds {listeners : List (Listener κ)} {listener : Listener κ}
    (member : listener ∈ listeners) (once : listener.once = true) :
    listener.id ∈ onceIds listeners :=
  List.mem_map_of_mem (List.mem_filter.mpr ⟨member, once⟩)

/-- Different numbers are written in different ways. -/
theorem intText_natCast_injective : Function.Injective fun number : Nat => intText number := by
  intro left right same
  have positive (number : Nat) : ¬ ((number : Int) < 0) := by omega
  have texts :
      String.ofList (Nat.toDigits 10 left) = String.ofList (Nat.toDigits 10 right) := by
    simpa [intText, positive] using same
  have digits : Nat.toDigits 10 left = Nat.toDigits 10 right :=
    String.ofList_injective texts
  have values := congrArg (fun digits => Nat.ofDigitChars 10 digits 0) digits
  simpa [Nat.ofDigitChars_ten_toDigits] using values

/-- Different numbers make different ids. -/
theorem World.listenerId_injective : Function.Injective World.listenerId := by
  intro left right same
  have texts : intText left = intText right := by
    simpa [World.listenerId] using same
  exact intText_natCast_injective texts

/-- A pass over the listeners of an event: those that it started with, and those that
still wait for the payload. -/
structure Pass (κ : Type) where
  event : String
  payload : Value
  starting : Ledger (Observed κ)
  waiting : Ledger (Observed κ)

/-- What a bus holds, how many ids were given out, and the passes in progress. -/
structure Stage (κ : Type) where
  bus : Bus (Observed κ)
  given : Nat
  passes : List (Pass κ)

namespace Stage

/-- The listener that is registered next. -/
def newListener (stage : Stage κ) (event : String) (name : κ)
    (options : ListenerOptions) : Listener (Observed κ) :=
  .make (World.listenerId (stage.given + 1)) event
    ⟨World.listenerId (stage.given + 1), name⟩ options .null

/-- The pass that a fire begins. -/
def newPass (stage : Stage κ) (event : String) (payload : Value) : Pass κ :=
  ⟨event, payload, stage.bus.listenersOf event, stage.bus.listenersOf event⟩

/-- What can happen at a stage.  A listener is called only by the innermost pass, and
a pass ends only when nobody waits any more; it can be broken off at any time. -/
inductive Step : Stage κ → Deed κ → Stage κ → Prop where
  | register (stage : Stage κ) (event : String) (name : κ) (options : ListenerOptions) :
      Step stage (.registered (stage.newListener event name options))
        ⟨stage.bus.register (stage.newListener event name options), stage.given + 1,
          stage.passes⟩
  | remove (stage : Stage κ) (id : String) :
      Step stage (.removed id) ⟨stage.bus.remove id, stage.given, stage.passes⟩
  | removeOwner (stage : Stage κ) (owner : Value) :
      Step stage (.removedOwner owner)
        ⟨stage.bus.removeOwner owner, stage.given, stage.passes⟩
  | clear (stage : Stage κ) : Step stage .cleared ⟨.empty, stage.given, stage.passes⟩
  | begin (stage : Stage κ) (event : String) (payload : Value) :
      Step stage (.began event payload)
        ⟨stage.bus, stage.given, stage.newPass event payload :: stage.passes⟩
  | call (bus : Bus (Observed κ)) (given : Nat) (pass : Pass κ)
      (listener : Listener (Observed κ)) (rest : Ledger (Observed κ))
      (outer : List (Pass κ)) :
      Step ⟨bus, given, { pass with waiting := listener :: rest } :: outer⟩
        (.called listener.callback.id pass.payload)
        ⟨bus, given, { pass with waiting := rest } :: outer⟩
  | finish (bus : Bus (Observed κ)) (given : Nat) (pass : Pass κ)
      (outer : List (Pass κ)) :
      Step ⟨bus, given, { pass with waiting := [] } :: outer⟩ .ended
        ⟨(onceIds pass.starting).foldl Bus.remove bus, given, outer⟩
  | abandon (bus : Bus (Observed κ)) (given : Nat) (pass : Pass κ)
      (outer : List (Pass κ)) :
      Step ⟨bus, given, pass :: outer⟩ .abandoned ⟨bus, given, outer⟩

/-- One step after the other, with the moments that are noted. -/
inductive Steps : Stage κ → List (Moment κ) → Stage κ → Prop where
  | nil (stage : Stage κ) : Steps stage [] stage
  | cons {stage middle final : Stage κ} {deed : Deed κ} {later : List (Moment κ)} :
      Step stage deed middle → Steps middle later final →
        Steps stage (⟨deed, middle.bus⟩ :: later) final

theorem Step.steps {stage after : Stage κ} {deed : Deed κ}
    (step : Step stage deed after) :
    Steps stage [⟨deed, after.bus⟩] after :=
  .cons step (.nil after)

theorem Steps.append {stage middle final : Stage κ} {earlier later : List (Moment κ)}
    (first : Steps stage earlier middle) (second : Steps middle later final) :
    Steps stage (earlier ++ later) final := by
  induction first with
  | nil stage => exact second
  | cons step _ inductionHypothesis =>
      exact .cons step (inductionHypothesis second)

theorem Steps.split_append {stage final : Stage κ} {past future : List (Moment κ)}
    (steps : Steps stage (past ++ future) final) :
    ∃ middle, Steps stage past middle ∧ Steps middle future final := by
  induction past generalizing stage with
  | nil => exact ⟨stage, .nil stage, steps⟩
  | cons first rest inductionHypothesis =>
      cases steps with
      | cons step later =>
          obtain ⟨middle, earlier, future⟩ := inductionHypothesis later
          exact ⟨middle, .cons step earlier, future⟩

/-- A run passes through a stage at each of its moments. -/
theorem Steps.split {stage final : Stage κ} {past future : List (Moment κ)}
    {moment : Moment κ} (steps : Steps stage (past ++ moment :: future) final) :
    ∃ before after,
      Steps stage past before ∧ Step before moment.deed after ∧
        moment.bus = after.bus ∧ Steps after future final := by
  obtain ⟨before, earlier, fromMoment⟩ := steps.split_append
  cases fromMoment with
  | cons step later => exact ⟨before, _, earlier, step, rfl, later⟩

end Stage

/-! ## What the deeds alone say -/

/-- The registrations that are left, what each pass in progress started with, and what those
started with that were broken off. -/
structure Account (κ : Type) where
  ledger : Ledger (Observed κ)
  started : List (Ledger (Observed κ))
  broken : List (Ledger (Observed κ))

namespace Account

/-- The account of a bus without listeners. -/
def empty : Account κ := ⟨[], [], []⟩

/-- The account after a deed. A registration is appended and a release deletes; the end
of a pass releases those of its listeners that are for one delivery, and a pass that is
broken off releases nobody. -/
def after (account : Account κ) : Deed κ → Account κ
  | .registered listener => { account with ledger := account.ledger ++ [listener] }
  | .removed id => { account with ledger := account.ledger.without [id] }
  | .removedOwner owner => { account with ledger := account.ledger.withoutOwner owner }
  | .cleared => { account with ledger := [] }
  | .began event _ =>
    { account with started := account.ledger.ofEvent event :: account.started }
  | .called _ _ => account
  | .ended =>
    { account with
      ledger := account.ledger.without (onceIds (account.started.headD []))
      started := account.started.tail }
  | .abandoned =>
    { account with
      started := account.started.tail
      broken := account.started.headD [] :: account.broken }

/-- The account after some moments. -/
def afterAll (account : Account κ) (moments : List (Moment κ)) : Account κ :=
  moments.foldl (fun account moment => account.after moment.deed) account

theorem afterAll_append (account : Account κ) (earlier later : List (Moment κ)) :
    account.afterAll (earlier ++ later) = (account.afterAll earlier).afterAll later := by
  rw [afterAll, afterAll, afterAll, List.foldl_append]

theorem afterAll_concat (account : Account κ) (earlier : List (Moment κ))
    (moment : Moment κ) :
    account.afterAll (earlier ++ [moment]) =
      (account.afterAll earlier).after moment.deed :=
  account.afterAll_append earlier [moment]

/-- An id that is one of those given out. -/
def IsGiven (given : Nat) (id : String) : Prop :=
  ∃ number ≤ given, id = World.listenerId number

theorem IsGiven.mono {given more : Nat} {id : String} (isGiven : IsGiven given id)
    (le : given ≤ more) : IsGiven more id := by
  obtain ⟨number, bound, isNumber⟩ := isGiven
  exact ⟨number, Nat.le_trans bound le, isNumber⟩

theorem IsGiven.ne_next {given : Nat} {id : String} (isGiven : IsGiven given id) :
    id ≠ World.listenerId (given + 1) := by
  obtain ⟨number, bound, rfl⟩ := isGiven
  intro same
  have sameNumber : number = given + 1 := World.listenerId_injective same
  omega

/-- A listener whose callback knows its id, which is one of those given out. -/
structure Named (given : Nat) (listener : Listener (Observed κ)) : Prop where
  callback_id : listener.callback.id = listener.id
  isGiven : IsGiven given listener.id

theorem Named.mono {given more : Nat} {listener : Listener (Observed κ)}
    (named : Named given listener) (le : given ≤ more) : Named more listener :=
  ⟨named.callback_id, named.isGiven.mono le⟩

/-- The deeds so far tell what is on the bus and what the passes started with. -/
structure Agrees (account : Account κ) (stage : Stage κ) : Prop where
  mirrors : Mirrors stage.bus account.ledger
  started_eq : account.started = stage.passes.map Pass.starting
  ledger_named : ∀ listener ∈ account.ledger, Named stage.given listener
  waiting_named : ∀ pass ∈ stage.passes, ∀ listener ∈ pass.waiting,
    Named stage.given listener
  waiting_subset : ∀ pass ∈ stage.passes, pass.waiting ⊆ pass.starting

namespace Agrees

variable {account : Account κ} {stage final : Stage κ}

theorem empty (given : Nat) : Agrees (Account.empty : Account κ) ⟨.empty, given, []⟩ where
  mirrors := .empty
  started_eq := rfl
  ledger_named := by simp [Account.empty]
  waiting_named := by simp
  waiting_subset := by simp

/-- The listener that is registered next has an id of its own. -/
theorem fresh (agrees : Agrees account stage) (event : String) (name : κ)
    (options : ListenerOptions) :
    ∀ other ∈ account.ledger, other.id ≠ (stage.newListener event name options).id :=
  fun other member => (agrees.ledger_named other member).isGiven.ne_next

theorem step (agrees : Agrees account stage) {deed : Deed κ}
    (step : Stage.Step stage deed final) : Agrees (account.after deed) final := by
  have shrink {ledger : Ledger (Observed κ)} {bus : Bus (Observed κ)}
      (mirrors : Mirrors bus ledger)
      (fewer : ∀ listener ∈ ledger, listener ∈ account.ledger) :
      Agrees { account with ledger } ⟨bus, stage.given, stage.passes⟩ :=
    ⟨mirrors, agrees.started_eq,
      fun listener member => agrees.ledger_named listener (fewer listener member),
      agrees.waiting_named, agrees.waiting_subset⟩
  cases step with
  | register _ event name options =>
      refine ⟨agrees.mirrors.register (agrees.fresh event name options),
        agrees.started_eq, ?_, ?_, agrees.waiting_subset⟩
      · intro listener member
        rcases List.mem_append.mp member with old | new
        · exact (agrees.ledger_named listener old).mono (Nat.le_succ _)
        · rw [List.mem_singleton.mp new]
          exact ⟨rfl, stage.given + 1, Nat.le_refl _, rfl⟩
      · intro pass passMember listener member
        exact (agrees.waiting_named pass passMember listener member).mono (Nat.le_succ _)
  | remove _ id =>
      exact shrink (agrees.mirrors.remove id) fun _ member =>
        (Ledger.mem_without.mp member).1
  | removeOwner _ owner =>
      exact shrink (agrees.mirrors.removeOwner owner) fun _ member =>
        List.mem_of_mem_filter member
  | clear => exact shrink .empty fun _ member => absurd member List.not_mem_nil
  | begin _ event payload =>
      have starting := agrees.mirrors.listenersOf_eq event
      refine ⟨agrees.mirrors, ?_, agrees.ledger_named, ?_, ?_⟩
      · simp [Account.after, Stage.newPass, starting, agrees.started_eq]
      · intro pass passMember listener member
        rcases List.mem_cons.mp passMember with rfl | older
        · have inLedger : listener ∈ account.ledger.ofEvent event := starting ▸ member
          exact agrees.ledger_named listener (Ledger.mem_ofEvent.mp inLedger).1
        · exact agrees.waiting_named pass older listener member
      · intro pass passMember
        rcases List.mem_cons.mp passMember with rfl | older
        · exact List.Subset.refl _
        · exact agrees.waiting_subset pass older
  | call bus given pass called rest outer =>
      refine ⟨agrees.mirrors, agrees.started_eq, agrees.ledger_named, ?_, ?_⟩
      · intro other otherMember listener member
        rcases List.mem_cons.mp otherMember with rfl | older
        · exact agrees.waiting_named _ (List.mem_cons_self ..) listener
            (List.mem_cons_of_mem called member)
        · exact agrees.waiting_named other (List.mem_cons_of_mem _ older) listener member
      · intro other otherMember
        rcases List.mem_cons.mp otherMember with rfl | older
        · exact List.Subset.trans (List.subset_cons_self called rest)
            (agrees.waiting_subset _ (List.mem_cons_self ..))
        · exact agrees.waiting_subset other (List.mem_cons_of_mem _ older)
  | finish bus given pass outer =>
      have started : account.started = pass.starting :: outer.map Pass.starting :=
        agrees.started_eq
      refine ⟨?_, ?_, ?_, ?_, ?_⟩
      · simpa [Account.after, started] using
          agrees.mirrors.removeAll (onceIds pass.starting)
      · simp [Account.after, started]
      · intro listener member
        exact agrees.ledger_named listener (Ledger.mem_without.mp member).1
      · intro other otherMember
        exact agrees.waiting_named other (List.mem_cons_of_mem _ otherMember)
      · intro other otherMember
        exact agrees.waiting_subset other (List.mem_cons_of_mem _ otherMember)
  | abandon bus given pass outer =>
      have started : account.started = pass.starting :: outer.map Pass.starting :=
        agrees.started_eq
      refine ⟨agrees.mirrors, ?_, agrees.ledger_named, ?_, ?_⟩
      · simp [Account.after, started]
      · intro other otherMember
        exact agrees.waiting_named other (List.mem_cons_of_mem _ otherMember)
      · intro other otherMember
        exact agrees.waiting_subset other (List.mem_cons_of_mem _ otherMember)

/-- At each stage of a run the account of its moments agrees. -/
theorem steps (agrees : Agrees account stage) {moments : List (Moment κ)}
    (steps : Stage.Steps stage moments final) :
    Agrees (account.afterAll moments) final := by
  induction steps generalizing account with
  | nil stage => exact agrees
  | cons step _ inductionHypothesis => exact inductionHypothesis (agrees.step step)

end Agrees

end Account

end CommandHost
