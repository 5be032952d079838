import CommandHost.Command.Simple
import CommandHost.Command.Spans

/-!
# The rich dialect

The words of a text are cut after the blanks inside quoted spans were replaced.
They are the module, possibly an object target, the operation and the
parameters. A parameter is a value in quotes, a named parameter, or a bare word.
A bare word waits for the value that follows it and becomes its key; with no
value to wait for it is a value itself, kept under its position.
-/

namespace CommandHost

/-- Why a text of the rich dialect is refused: it is no command, or the sentinel is no
template. -/
inductive RichFault where
  | parse (fault : ParseFault)
  | template (fault : IllegalUse)

namespace RichDialect

/-- A bare word that waits for its value, with its position. -/
structure PendingKey where
  key : String
  position : Nat

/-- A quoted value whose end has not been reached, with its position and the quote it
stands in. -/
structure OpenValue where
  content : List Char
  position : Nat
  quote : Char

/-- The state of reading parameters. -/
structure Fold where
  params : Entries
  pending : Option PendingKey
  opened : Option OpenValue

namespace Fold

/-- The state before the first parameter. -/
def start : Fold := ⟨[], none, none⟩

/-- Gives a value to the key that waits, or keeps it under its position. -/
def assign (state : Fold) (value : List Char) (position : Nat) : Fold :=
  let value := Value.text (String.ofList value)
  match state.pending with
  | some pending => { state with params := state.params.set pending.key value, pending := none }
  | none => { state with params := state.params.set (intText position) value }

/-- Keeps a key that waits in vain as a value under its own position. -/
def flush (state : Fold) : Fold :=
  match state.pending with
  | some pending =>
    { state with
      params := state.params.set (intText pending.position) (.text pending.key)
      pending := none }
  | none => state

end Fold

/-- What stands between the first and the last character. -/
def inner (quoted : List Char) : List Char := (quoted.drop 1).dropLast

/-- Reads one word that stands at a position. -/
def step (settings : ReaderSettings) (state : Fold) (position : Nat) (word : List Char) : Fold :=
  match state.opened with
  | some opened =>
    let content := opened.content ++ ' ' :: word
    if word.getLast? = some opened.quote then
      Fold.assign { state with opened := none } (settings.unescape (inner content)) opened.position
    else { state with opened := some { opened with content } }
  | none =>
    match word with
    | [] => state
    | first :: rest =>
      if isQuote first then
        if rest.getLast? = some first then
          state.assign (settings.unescape (inner word)) position
        else { state with opened := some ⟨word, position, first⟩ }
      else
        match Text.cutAtFirst? nameMark word with
        | some (key, value) =>
          let state := state.flush
          { state with
            params := state.params.set (String.ofList key)
              (.text (String.ofList (settings.unescape value))) }
        | none =>
          if state.pending.isSome then state.assign (settings.unescape word) position
          else
            { state with
              pending := some ⟨String.ofList (settings.unescape word), position⟩ }

/-- Reads words that stand at positions from `position` on. -/
def run (settings : ReaderSettings) (state : Fold) (position : Nat) : List (List Char) → Fold
  | [] => state
  | word :: rest => run settings (step settings state position word) (position + 1) rest

/-- The parameters that a list of words gives, or the quoted value that has no end. -/
def foldParams (settings : ReaderSettings) (words : List (List Char)) :
    Except (List Char) Entries :=
  let state := run settings .start 1 words
  match state.opened with
  | some opened => .error opened.content
  | none => .ok state.flush.params

/-- Reads the words from the operation on. -/
def readOperation (settings : ReaderSettings) (text : Option String) (moduleName : String)
    (target : Option Value) : List (List Char) → Except ParseFault Command
  | [] => .error (.missingOperation text moduleName)
  | op :: rest =>
    match foldParams settings rest with
    | .error value => .error (.unclosedValue text moduleName (String.ofList value))
    | .ok params => .ok { moduleName, op := String.ofList op, params, target }

/-- Reads the words after the module. -/
def readTarget (settings : ReaderSettings) (text : Option String) (moduleName : String)
    (words : List (List Char)) : Except ParseFault Command :=
  let selector := settings.selector.toList
  match words with
  | [] => .error (.missingOperation text moduleName)
  | word :: rest =>
    if selector.isPrefixOf word then
      let objectId := word.drop selector.length
      if objectId.isEmpty then .error (.bareSelector text moduleName settings.selector)
      else readOperation settings text moduleName (some (.text (String.ofList objectId))) rest
    else readOperation settings text moduleName none words

/-- Reads the words of a text. -/
def readWords (settings : ReaderSettings) (text : Option String) (moduleName : Option String)
    (words : List (List Char)) : Except ParseFault Command :=
  match moduleName, words with
  | some name, words =>
    if name = "" then readUnnamed words else readTarget settings text name words
  | none, words => readUnnamed words
where
  /-- Reads the words of a text that begins with the module. -/
  readUnnamed : List (List Char) → Except ParseFault Command
    | [] => .error (.missingModule text)
    | name :: rest => readTarget settings text (String.ofList name) rest

/-- Reads a text of the rich dialect. A module that is given and not empty takes the
place of the first word. -/
def read (settings : ReaderSettings) (text : Option String) (moduleName : Option String) :
    Except RichFault Command :=
  match settings.escape (text.getD "").toList with
  | .error fault => .error (.template fault)
  | .ok escaped =>
    match readWords settings text moduleName (Text.words escaped) with
    | .error fault => .error (.parse fault)
    | .ok command => .ok command

end RichDialect

end CommandHost
