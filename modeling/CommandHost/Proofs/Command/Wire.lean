import CommandHost.Proofs.Command.Outcomes
import CommandHost.Proofs.Event.Effects
import CommandHost.Proofs.Result
import CommandHost.World.Dispatch

/-!
# Commands on the wire

A command is written as a mapping and read back from one.  Reading is generous: it takes
two spellings of each part, turns names into texts, and takes what counts as false for
nothing.  Whatever way a command was made, none of this shows any more once it is
there: its wire form is read back as the same command, so that executing the one is
executing the other.
-/

namespace CommandHost

variable {V : Vocabulary}

/-- A command that was read, from a text of one of the dialects or from a mapping. -/
inductive Command.Produced : Command → Prop where
  | simple {text moduleName : Option String} {command : Command}
      (read : SimpleDialect.read text moduleName = .ok command) : Produced command
  | rich {settings : ReaderSettings} {text moduleName : Option String} {command : Command}
      (read : RichDialect.read settings text moduleName = .ok command) : Produced command
  | wire {entries : Entries} {command : Command}
      (read : Command.ofWire entries = .ok command) : Produced command

namespace Command

theorem IsProper.target_truthy {command : Command} (proper : command.IsProper)
    (target : Value) (addressed : command.target = some target) : target.truthy = true := by
  obtain ⟨id, rfl, nonempty⟩ := proper.target_nonempty target addressed
  simpa [Value.truthy] using nonempty

theorem target_truthy_of_ofWire {entries : Entries} {command : Command}
    (read : ofWire entries = .ok command) (target : Value)
    (addressed : command.target = some target) : target.truthy = true := by
  simp only [ofWire, bind_eq_ok_iff, pure_eq_ok, Except.ok.injEq] at read
  obtain ⟨moduleName, -, op, -, params, -, rfl⟩ := read
  by_cases counts : (Part.target.pick entries).truthy = true
  · have same : Part.target.pick entries = target := by simpa [counts] using addressed
    rw [← same]
    exact counts
  · simp [counts] at addressed

theorem Produced.target_truthy {command : Command} (produced : command.Produced)
    (target : Value) (addressed : command.target = some target) : target.truthy = true := by
  cases produced with
  | @simple text moduleName _ read =>
      -- A dialect only gives targets that are texts and not empty.
      have disciplined := SimpleDialect.read_disciplined text moduleName
      rw [read] at disciplined
      exact IsProper.target_truthy disciplined target addressed
  | @rich settings text moduleName _ read =>
      have escaped : ∃ escaped, settings.escape (text.getD "").toList = .ok escaped := by
        cases outcome : settings.escape (text.getD "").toList with
        | error cause => simp [RichDialect.read, outcome] at read
        | ok escaped => exact ⟨escaped, rfl⟩
      have disciplined :=
        (RichDialect.read_disciplined_iff_escape settings text moduleName).mpr escaped
      rw [read] at disciplined
      exact IsProper.target_truthy disciplined target addressed
  | wire read => exact target_truthy_of_ofWire read target addressed

end Command

namespace World

theorem executeValue_run_of_ofWire (host : Host V) (world : World V) {entries : Entries}
    {command : Command} (read : Command.ofWire entries = .ok command) :
    (executeValue host (.map entries)).run world = (execute host command).run world := by
  have given : (commandOf "module" (.map entries) : Effect V Command).run world =
      .ok command world := by
    rw [commandOf, read]
    rfl
  exact run_bind_ok given

end World

namespace Command

/-- **Wire round trip.**  A command that was read, from a text or from a mapping, is read
back from its wire form with all its parts.  The wire form has a target exactly if the
command is addressed to an object, and executing it is executing the command. -/
theorem Produced.wire_faithful {command : Command} (produced : command.Produced) :
    ofWire command.toWire = .ok command ∧
      command.toWire.get? Part.target.wireKey = command.target ∧
      command.target.isSome = command.hasTarget ∧
      ∀ {V : Vocabulary} (host : Host V) (world : World V),
        (World.executeValue host (.map command.toWire)).run world =
          (World.execute host command).run world := by
  have readBack := ofWire_toWire command produced.target_truthy
  have kept : command.target.filter Value.truthy = command.target := by
    cases addressed : command.target with
    | none => rfl
    | some target =>
        rw [Option.filter_some, if_pos (produced.target_truthy target addressed)]
  have targeted : command.target.isSome = command.hasTarget := by
    unfold hasTarget
    cases addressed : command.target with
    | none => rfl
    | some target => exact (produced.target_truthy target addressed).symm
  refine ⟨readBack, ?_, targeted, fun host world => ?_⟩
  · rw [get?_target_toWire, kept]
  · exact World.executeValue_run_of_ofWire host world readBack

/-- A mapping with both spellings of some parts, whose names are no texts and whose
parameters are pairs, one of them twice. -/
def motley : Entries :=
  .ofTexts
    [("module", .text "shadowed"), ("_module", .int 7), ("op", .bool true),
      ("_params", .list
        [.list [.text "a", .int 1], .list [.int 2, .null], .list [.text "a", .list []]]),
      ("_object", .list [.text "id"]), ("object_id", .text "shadowed")]

def plainMotley : Command where
  moduleName := "7"
  op := "True"
  params := [(.text "a", .list []), (.int 2, .null)]
  target := some (.list [.text "id"])

theorem Produced.wire_faithful_motley :
    ofWire motley = .ok plainMotley ∧ ofWire plainMotley.toWire = .ok plainMotley ∧
      plainMotley.toWire.get? Part.target.wireKey = some (.list [.text "id"]) := by
  have read : ofWire motley = .ok plainMotley := by rfl
  have faithful := Produced.wire_faithful (.wire read)
  exact ⟨read, faithful.1, faithful.2.1⟩

end Command

end CommandHost
