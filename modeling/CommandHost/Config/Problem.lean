import CommandHost.Value.Basic

/-!
# What is wrong with a configuration

A `Problem` names a place in a mapping and what is wrong there. A check gives
either what it read or all the problems it found: `Checked.both` runs two checks
and keeps the problems of both, those of the first one in front.
-/

namespace CommandHost

/-- What can be wrong with a value of a configuration. -/
inductive ProblemKind where
  | notText
  | unreadFlag
  | notFlag
  | notLevel
  | notFormat
  | notSection (className : String)
  | notMapping
  | emptyText
  | blankInside
  /-- Anything else, with the code and the text that it is reported with. -/
  | other (code message : String)
  deriving DecidableEq, Repr

namespace ProblemKind

/-- The code of a kind of problem. -/
def code : ProblemKind → String
  | notText => "string_type"
  | unreadFlag => "bool_parsing"
  | notFlag => "bool_type"
  | notLevel | notFormat => "enum"
  | notSection _ => "model_type"
  | notMapping => "dict_type"
  | emptyText | blankInside => "value_error"
  | other code _ => code

/-- The text of a kind of problem. -/
def message : ProblemKind → String
  | notText => "Input should be a valid string"
  | unreadFlag => "Input should be a valid boolean, unable to interpret input"
  | notFlag => "Input should be a valid boolean"
  | notLevel => "Input should be 'DEBUG', 'INFO', 'WARNING', 'ERROR' or 'CRITICAL'"
  | notFormat => "Input should be 'json' or 'console'"
  | notSection className => "Input should be a valid dictionary or instance of " ++ className
  | notMapping => "Input should be a valid dictionary"
  | emptyText => "Value error, must not be empty"
  | blankInside => "Value error, must not contain whitespace"
  | other _ message => message

end ProblemKind

/-- Something wrong at a place, which is given by the keys that lead to it. -/
structure Problem where
  path : List String
  kind : ProblemKind
  deriving DecidableEq, Repr

/-- A problem as a mapping. -/
def Problem.toValue (problem : Problem) : Value :=
  .map (Entries.ofTexts
    [("loc", .list (problem.path.map .text)), ("type", .text problem.kind.code),
      ("msg", .text problem.kind.message)])

/-- What a check gives: what it read, or all the problems it found. -/
abbrev Checked (α : Type) := Except (List Problem) α

namespace Checked

variable {α β γ : Type}

/-- Two checks, one after the other, whatever the first one finds. -/
def both (first : Checked α) (second : Checked β) : Checked (α × β) :=
  match first, second with
  | .ok left, .ok right => .ok (left, right)
  | .ok _, .error problems => .error problems
  | .error problems, .ok _ => .error problems
  | .error problems, .error others => .error (problems ++ others)

/-- The problems of a check that looked at the value of a key. -/
def under (key : String) (checked : Checked α) : Checked α :=
  match checked with
  | .ok value => .ok value
  | .error problems =>
    .error (problems.map fun problem => { problem with path := key :: problem.path })

/-- The value of a key, if the mapping has one, and otherwise a default. -/
def field (entries : Entries) (key : String) (default : α) (read : Value → Checked α) :
    Checked α :=
  match entries.get? key with
  | none => .ok default
  | some value => under key (read value)

/-- One problem with the value that is looked at. -/
def problem (kind : ProblemKind) : Checked α := .error [⟨[], kind⟩]

/-- What was found, or else a problem. -/
def found (kind : ProblemKind) : Option α → Checked α
  | some value => .ok value
  | none => problem kind

/-! ## Small facts -/

/-- Two checks succeed together exactly when each of them does. -/
theorem both_eq_ok_iff {first : Checked α} {second : Checked β} {pair : α × β} :
    both first second = .ok pair ↔ first = .ok pair.1 ∧ second = .ok pair.2 := by
  obtain ⟨left, right⟩ := pair
  cases first <;> cases second <;> simp [both]

@[simp] theorem under_ok (key : String) (value : α) :
    under key (.ok value : Checked α) = .ok value := rfl

theorem under_eq_ok_iff {key : String} {checked : Checked α} {value : α} :
    under key checked = .ok value ↔ checked = .ok value := by
  cases checked <;> simp [under]

end Checked

end CommandHost
