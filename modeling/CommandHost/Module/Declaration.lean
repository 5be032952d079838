import CommandHost.Module.Basic

/-!
# Classes of modules

A class of modules is a chain of bodies, the most basic one first. A body has methods
under names; a method may be exposed as an operation. Which method does an operation is
settled by its name, so a later body can replace the method without exposing it again,
or expose another one in its place.
-/

namespace CommandHost

/-- A method of modules. -/
structure Method (V : Vocabulary) where
  /-- The name of the operation that it is exposed as, if it is exposed. The empty text
  stands for the name of the method. -/
  exposed : Option String
  content : Operation V

/-- The methods of one class, without those of the classes it is based on. -/
abbrev ClassBody (V : Vocabulary) := Table (Method V)

variable {V : Vocabulary}

/-- The normal name of the operation that a method of a name is exposed as. A name that is
blank exposes nothing. -/
def Method.operationName? (method : Method V) (name : String) : Option String :=
  match method.exposed with
  | none => none
  | some given =>
    let normal := normalOpName (if given = "" then name else given)
    if normal = "" then none else some normal

/-- What the bodies of a chain expose: operations, with the names of their methods. -/
def ClassBody.exposures (bodies : List (ClassBody V)) : List (String × String) :=
  bodies.flatten.filterMap fun (name, method) =>
    (method.operationName? name).map fun operation => (operation, name)

/-- The method of a name: that of the last body which has one. -/
def ClassBody.method? (bodies : List (ClassBody V)) (name : String) : Option (Method V) :=
  bodies.reverse.findSome? fun body => body.get? name

/-- The operations of a class. The last exposure of an operation says which method does
it. -/
def Operations.declared (bodies : List (ClassBody V)) : Operations V :=
  (Table.putAll [] (ClassBody.exposures bodies)).filterMap fun (operation, name) =>
    (ClassBody.method? bodies name).map fun method => (operation, method.content)

/-- The methods of all modules that are exposed. -/
def ClassBody.basic : ClassBody V :=
  [("_help", ⟨some "help", .help⟩), ("_info", ⟨some "info", .info⟩)]

end CommandHost
