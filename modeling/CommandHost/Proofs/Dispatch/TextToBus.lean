import CommandHost.Proofs.Command.RichRoundTrip
import CommandHost.Proofs.Dispatch.Separation

/-!
# From a command text to the bus

A text of the program can name an object and, in quotes, an event and a payload for its
verb `fire`.  On its way to the bus it is filled, cut into words, folded into parameters,
read as a command, routed to a module and on to the object, and its parameters are picked
by their positions.  The main statement says that nothing is lost and nothing added on this
way: apart from one record in the journal, running the text is firing the event.
-/

namespace CommandHost

open ReaderSettings (standard)

/-! ## Reading values by position -/

/-- A value that can be written between double quotes and read back. -/
structure IsQuotable (value : String) : Prop where
  unquoted : '"' ∉ value.toList
  spaces : ∀ c ∈ value.toList, Text.isBlank c = true → c = ' '
  free : ¬ ReaderSettings.sentinelStem <:+: value.toList

namespace IsQuotable

variable {value : String}

/-- A value between double quotes, as a word. -/
def word (value : String) : List Char := QuotedParam.enclose '"' value.toList

/-- The word of a value after its blanks were filled. -/
def filledWord (value : String) : List Char :=
  QuotedParam.enclose '"' (Spans.fillBlanks standardFill value.toList)

theorem word_fillsTo (quotable : IsQuotable value) :
    Spans.FillsTo standardFill (word value) (filledWord value) :=
  QuotedParam.enclose_fillsTo rfl quotable.unquoted

theorem filledWord_isWord (value : String) : Text.IsWord (filledWord value) :=
  QuotedParam.enclose_isWord rfl _

/-- Where no key waits for it, a value is kept under its position. -/
theorem step_filledWord (quotable : IsQuotable value) (entries : Entries) (position : Nat) :
    RichDialect.step standard ⟨entries, none, none⟩ position (filledWord value) =
      ⟨entries.set (intText position) (.text value), none, none⟩ := by
  rw [filledWord, RichDialect.step_enclose rfl,
    ReaderSettings.unescape_fillBlanks quotable.spaces quotable.free, RichDialect.Fold.assign,
    String.ofList_toList]

end IsQuotable

/-- The text that fires an event with a payload from an object. -/
def fireText (moduleName id event payload : String) : String :=
  moduleName ++ " #" ++ id ++ " fire \"" ++ event ++ "\" \"" ++ payload ++ "\""

/-- The command that the text stands for. -/
def fireCommand (moduleName id event payload : String) : Command where
  moduleName := moduleName
  op := "fire"
  params := .ofTexts [("1", .text event), ("2", .text payload)]
  target := some (.text id)

/-- The words in front of the event. -/
def firePhrase (moduleName id : String) : RichPhrase := ⟨moduleName, some id, "fire", []⟩

variable {moduleName id event payload : String}

theorem fire_isPlainWord : IsPlainWord "fire" :=
  ⟨by decide, Text.forall_mem_of_all (by decide)⟩

theorem firePhrase_isAddressed (modulePlain : IsPlainWord moduleName)
    (idPlain : IsPlainWord id) : (firePhrase moduleName id).IsAddressed where
  module_plain := modulePlain
  target_plain := by
    rintro other ⟨⟩
    exact idPlain
  op_plain := fire_isPlainWord
  op_unselected := by simp [firePhrase]

/-- The text is made of the words of its header and the two values. -/
theorem fireText_toList (moduleName id event payload : String) :
    (fireText moduleName id event payload).toList =
      List.intercalate [' ']
        ((firePhrase moduleName id).header ++
          [IsQuotable.word event, IsQuotable.word payload]) := by
  have selector : standard.selector.toList = ['#'] := rfl
  have verb : "fire".toList = ['f', 'i', 'r', 'e'] := rfl
  simp [fireText, firePhrase, RichPhrase.header, RichPhrase.targetWord, IsQuotable.word,
    QuotedParam.enclose, List.intercalate_cons_cons, selector, verb]

theorem words_fireText (modulePlain : IsPlainWord moduleName) (idPlain : IsPlainWord id)
    (eventQuotable : IsQuotable event) (payloadQuotable : IsQuotable payload) :
    Text.words
        (Spans.mapBlanks standardFill none (fireText moduleName id event payload).toList) =
      (firePhrase moduleName id).header ++
        [IsQuotable.filledWord event, IsQuotable.filledWord payload] := by
  have addressed := firePhrase_isAddressed modulePlain idPlain
  have fills := addressed.fillsTo
    (.cons eventQuotable.word_fillsTo (.cons payloadQuotable.word_fillsTo .nil)) []
  simp only [List.append_nil, Spans.mapBlanks] at fills
  rw [fireText_toList, fills]
  apply Text.words_intercalate
  intro token member
  rcases List.mem_append.mp member with inHeader | isValue
  · exact (addressed.header_word token inHeader).1
  · simp only [List.mem_cons, List.not_mem_nil, or_false] at isValue
    rcases isValue with rfl | rfl
    · exact IsQuotable.filledWord_isWord event
    · exact IsQuotable.filledWord_isWord payload

theorem read_fireText (modulePlain : IsPlainWord moduleName) (idPlain : IsPlainWord id)
    (eventQuotable : IsQuotable event) (payloadQuotable : IsQuotable payload) :
    RichDialect.read standard (some (fireText moduleName id event payload)) none =
      .ok (fireCommand moduleName id event payload) := by
  have folded :
      RichDialect.foldParams standard
          [IsQuotable.filledWord event, IsQuotable.filledWord payload] =
        .ok (.ofTexts [("1", .text event), ("2", .text payload)]) := by
    rw [RichDialect.foldParams, RichDialect.Fold.start, RichDialect.run, RichDialect.run,
      RichDialect.run, eventQuotable.step_filledWord, payloadQuotable.step_filledWord]
    rfl
  rw [RichDialect.read_of_words (firePhrase_isAddressed modulePlain idPlain)
      (words_fireText modulePlain idPlain eventQuotable payloadQuotable),
    RichDialect.readOperation, folded, String.ofList_toList]
  rfl

/-! ## Running what was read -/

namespace World

variable {V : Vocabulary}

/-- The record that announces a command of the program. -/
def announcement (moduleName op : String) : LogRecord :=
  .plain .debug ("Running command: " ++ moduleName ++ " " ++ op)

/-- A text that is read as a command is announced and executed. -/
theorem run_of_read (host : Host V) {world : World V} {text : String} {command : Command}
    (solid : Text.isBlankText text.toList = false)
    (read : RichDialect.read (world.hub world.mainHub).settings (some text) none =
      .ok command) :
    (run host (some text)).run world =
      (execute host command).run
        (world.logged (announcement command.moduleName command.op)) := by
  have readCommand :
      readCommand (world.hub world.mainHub).settings true text = .ok command := by
    rw [World.readCommand, if_pos rfl, read]
    rfl
  unfold run
  simp only [Option.getD_some, solid, Bool.false_eq_true, if_false]
  rw [run_bind_ok (EStateM.run_get world), readCommand]
  rfl

/-- A command that names an event is a fire on the bus of its object. -/
theorem fireFrom_run (host : Host V) {world : World V} {command : Command}
    {handle hub : Nat} {event payload : Value} {name : String}
    (names : eventOf command.params = some (event, payload))
    (written : event.toText = .ok name)
    (acts : (world.object handle).hub = some hub) :
    (fireFrom host command handle).run world =
      (do
        fire host hub name payload
        return Reply.null).run world := by
  unfold fireFrom
  simp only [names]
  rw [run_bind_ok (EStateM.run_get world)]
  simp only [acts, written]
  rfl

/-- An object that a registered module has under an id: the module acts on the bus of the
program, and so does the object, which understands `fire` as the built-in verb. -/
structure Stands (world : World V) (place : Nat) (moduleName id : String)
    (handle : Nat) : Prop where
  registered : world.registered.get? moduleName = some place
  shares : world.hubOf place = world.mainHub
  holds : (world.moduleOf place).registry.get? id = some handle
  acts : (world.object handle).hub = some (world.hubOf place)
  understands : (world.object handle).verbs.get? "fire" = some .fire

theorem execute_fireCommand (host : Host V) {world : World V} {place handle : Nat}
    (stands : world.Stands place moduleName id handle) (idPlain : IsPlainWord id)
    (eventNonempty : event ≠ "") :
    (execute host (fireCommand moduleName id event payload)).run world =
      (do
        fire host world.mainHub event (.text payload)
        return Reply.null).run world := by
  have route : world.route moduleName "fire" (some id) = .ok (.verb handle .fire) :=
    (route_of_addressed idPlain.1 _).mpr
      ⟨place, handle, .fire, stands.registered, by decide, stands.holds, stands.understands, rfl⟩
  have names :
      eventOf (fireCommand moduleName id event payload).params =
        some (.text event, .text payload) := by
    have truthy : (Value.text event).truthy = true := by
      simpa [Value.truthy] using eventNonempty
    simp [eventOf, fireCommand, Entries.getOrNull, Entries.get?, Entries.ofTexts,
      Entries.find?, truthy]
  have acts : (world.object handle).hub = some world.mainHub :=
    stands.acts.trans (congrArg some stands.shares)
  have addressed :
      (fireCommand moduleName id event payload).target = (some id).map Value.text := rfl
  rw [execute_run host world addressed]
  change world.follow host _ (world.route moduleName "fire" (some id)) = _
  rw [route]
  exact fireFrom_run host names rfl acts

/-- Running the text that fires an event from an object logs the announcement of the command
and then does exactly what firing the event on the bus of the program does; the result is
null. -/
theorem run_fireText (host : Host V) {world : World V} {place handle : Nat}
    (stands : world.Stands place moduleName id handle)
    (settings : (world.hub world.mainHub).settings = standard)
    (modulePlain : IsPlainWord moduleName) (idPlain : IsPlainWord id)
    (eventNonempty : event ≠ "") (eventQuotable : IsQuotable event)
    (payloadQuotable : IsQuotable payload) :
    (run host (some (fireText moduleName id event payload))).run world =
      (do
        fire host world.mainHub event (.text payload)
        return Reply.null).run (world.logged (announcement moduleName "fire")) := by
  have solid : Text.isBlankText (fireText moduleName id event payload).toList = false := by
    obtain ⟨c, rest, begins⟩ := List.exists_cons_of_ne_nil modulePlain.isWord.1
    have cSolid : Text.isBlank c = false :=
      modulePlain.isWord.2 c (begins ▸ List.mem_cons_self)
    simp [fireText, Text.isBlankText, begins, cSolid]
  have read := read_fireText modulePlain idPlain eventQuotable payloadQuotable
  rw [← settings] at read
  have standsLogged :
      (world.logged (announcement moduleName "fire")).Stands place moduleName id handle :=
    ⟨stands.registered, stands.shares, stands.holds, stands.acts, stands.understands⟩
  rw [run_of_read host solid read]
  exact execute_fireCommand host standsLogged idPlain eventNonempty

/-- A world with a sample module, one object in it, and a listener on the bus. -/
def attentive : World Scenario.vocabulary :=
  World.after
    (do
      let place ← World.makeModule Scenario.SampleModule.sample.toClass "m:1" 0
      World.registerModule place
      let _ ← World.create (Scenario.hostOf []) place
        (.map (Entries.ofTexts [("_id", .text "#a:b"), ("_type", .text "spinner")]))
      World.listen 0 "it's #a: now" (.script (.record "r")) .standard)
    (Scenario.startWorld .standard false)

/-- Selectors, colons and apostrophes reach the bus as they are. -/
theorem run_fireText_attentive :
    ((attentive.hub 0).bus.listenersOf "it's #a: now").length = 1 ∧
      attentive.Stands 0 "m:1" "#a:b" 0 ∧
      (run (Scenario.hostOf [])
          (some "m:1 ##a:b fire \"it's #a: now\" \" x:1  'y' \"")).run attentive =
        (do
          fire (Scenario.hostOf []) 0 "it's #a: now" (.text " x:1  'y' ")
          return Reply.null).run (attentive.logged (announcement "m:1" "fire")) := by
  have stands : attentive.Stands 0 "m:1" "#a:b" 0 :=
    { registered := by decide +kernel
      shares := by decide +kernel
      holds := by decide +kernel
      acts := by decide +kernel
      understands := rfl }
  have plain : ∀ word ∈ ["m:1", "#a:b"], IsPlainWord word := by
    simp only [List.forall_mem_cons]
    exact ⟨⟨by decide, Text.forall_mem_of_all (by decide)⟩,
      ⟨by decide, Text.forall_mem_of_all (by decide)⟩, by simp⟩
  have quotable : ∀ value ∈ ["it's #a: now", " x:1  'y' "], IsQuotable value := by
    simp only [List.forall_mem_cons]
    exact ⟨⟨by decide, Text.forall_mem_of_all (by decide), by decide⟩,
      ⟨by decide, Text.forall_mem_of_all (by decide), by decide⟩, by simp⟩
  have main : attentive.mainHub = 0 := by decide +kernel
  have settings : (attentive.hub attentive.mainHub).settings = standard := by decide +kernel
  have written :
      fireText "m:1" "#a:b" "it's #a: now" " x:1  'y' " =
        "m:1 ##a:b fire \"it's #a: now\" \" x:1  'y' \"" := by
    decide +kernel
  have delivered :=
    run_fireText (Scenario.hostOf []) stands settings (plain _ (by simp)) (plain _ (by simp))
      (by decide) (quotable "it's #a: now" (by simp)) (quotable " x:1  'y' " (by simp))
  rw [written, main] at delivered
  exact ⟨by decide +kernel, stands, delivered⟩

end World

end CommandHost
