import CommandHost.Command.Basic
import CommandHost.Command.Fault
import CommandHost.Text.Blank
import CommandHost.Text.Pieces

/-!
# The simple dialect

A command text is a sequence of words: the module, the operation, then the
parameters. A parameter with a colon is named and is cut at its first colon; any
other one is kept under its position, counted from one over all parameters.
Nothing is quoted. When the module is given apart, the text begins with the
operation.
-/

namespace CommandHost

/-- The character between the name and the value of a named parameter. -/
def nameMark : Char := ':'

namespace SimpleDialect

/-- Assigns the parameters one after another, counting them from `position`. -/
def assignParams (params : Entries) (position : Nat) : List (List Char) → Entries
  | [] => params
  | word :: rest =>
    let params :=
      match Text.cutAtFirst? nameMark word with
      | some (key, value) => params.set (String.ofList key) (.text (String.ofList value))
      | none => params.set (intText position) (.text (String.ofList word))
    assignParams params (position + 1) rest

/-- Reads the words after the module. -/
def readOperation (text : Option String) (moduleName : String) :
    List (List Char) → Except ParseFault Command
  | [] => .error (.missingOperation text moduleName)
  | op :: params => .ok {
      moduleName
      op := String.ofList op
      params := assignParams [] 1 params
      target := none }

/-- Reads a text of the simple dialect. A module that is given and not empty takes the
place of the first word. -/
def read (text : Option String) (moduleName : Option String) : Except ParseFault Command :=
  let words := Text.words (text.getD "").toList
  match moduleName with
  | some name =>
    if name = "" then readUnnamed words else readOperation text name words
  | none => readUnnamed words
where
  /-- Reads the words of a text that begins with the module. -/
  readUnnamed : List (List Char) → Except ParseFault Command
    | [] => .error (.missingModule text)
    | name :: rest => readOperation text (String.ofList name) rest

end SimpleDialect

end CommandHost
