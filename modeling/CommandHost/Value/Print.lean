import CommandHost.Text.Pieces
import CommandHost.Text.Quoted
import CommandHost.Value.Basic

/-!
# The text of a value

A text prints as itself; inside a list or a mapping it is quoted. `Spelling`
holds the words for the values that are neither numbers nor texts.
-/

namespace CommandHost

/-- The words for null, true and false. -/
structure Spelling where
  null : String
  yes : String
  no : String

/-- The spelling that printed values use. -/
def Spelling.plain : Spelling := ⟨"None", "True", "False"⟩

/-- The decimal text of an integer. -/
def intText (number : Int) : String :=
  let digits := String.ofList (Nat.toDigits 10 number.natAbs)
  if number < 0 then "-" ++ digits else digits

/-- An atom as it stands inside a printed list or mapping. -/
def Atom.literal : Atom → String
  | .null => Spelling.plain.null
  | .bool flag => if flag then Spelling.plain.yes else Spelling.plain.no
  | .int number => intText number
  | .float number => Decimal.floatText number
  | .text content => Text.quotedString content
  | .moment label => label
  | .object handle => handle.label

/-- The text of an atom. -/
def Atom.print : Atom → String
  | .text content => content
  | atom => atom.literal

namespace Value

mutual

/-- A value as it stands inside a printed list or mapping. -/
def literal : Value → String
  | .atom content => content.literal
  | .list items => "[" ++ ", ".intercalate (literals items) ++ "]"
  | .map entries => "\x7b" ++ ", ".intercalate (entryLiterals entries) ++ "\x7d"

/-- The items of a list, each as it is printed. -/
def literals : List Value → List String
  | [] => []
  | item :: rest => literal item :: literals rest

/-- The entries of a mapping, each as it is printed. -/
def entryLiterals : List (Atom × Value) → List String
  | [] => []
  | (key, value) :: rest => (key.literal ++ ": " ++ literal value) :: entryLiterals rest

end

/-- The text of a value. -/
def print : Value → String
  | .atom content => content.print
  | value => value.literal

@[simp] theorem print_text (content : String) : print (.text content) = content := rfl

end Value

end CommandHost
