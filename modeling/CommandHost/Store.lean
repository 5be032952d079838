import CommandHost.Value.Basic

/-!
# The shared store

Values kept by key, and variables. Both are forgotten together.
-/

namespace CommandHost

/-- Values and variables by key, in the order of their first assignment. -/
structure Store where
  items : Entries
  vars : Entries

namespace Store

/-- A store that holds nothing. -/
def empty : Store := ⟨[], []⟩

instance : Inhabited Store := ⟨empty⟩

/-- Keeps a value under a key. -/
def set (store : Store) (key : Atom) (value : Value) : Store :=
  { store with items := store.items.assign key value }

/-- The value of a key, or a default. -/
def get (store : Store) (key : Atom) (default : Value) : Value :=
  (store.items.find? key).getD default

/-- Whether a key has a value. -/
def has (store : Store) (key : Atom) : Bool := store.items.has key

/-- Forgets a key. -/
def delete (store : Store) (key : Atom) : Store :=
  { store with items := store.items.erase key }

/-- The value of a key, or a default, and the store without the key. -/
def pick (store : Store) (key : Atom) (default : Value) : Value × Store :=
  (store.get key default, store.delete key)

/-- How many keys have a value. -/
def size (store : Store) : Nat := store.items.length

/-- Sets a variable. -/
def setVariable (store : Store) (key : Atom) (value : Value) : Store :=
  { store with vars := store.vars.assign key value }

end Store

end CommandHost
