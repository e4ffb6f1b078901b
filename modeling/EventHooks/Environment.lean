import EventHooks.Text.Quoted

/-!
# Environment variables

An environment gives values to names. It is a list of pairs in the order in which the names were
set first.
-/
namespace EventHooks

/-- Values of names. -/
abbrev Environment := List (String × String)

namespace Environment

/-- The value of a variable. -/
def get? (environment : Environment) (name : String) : Option String :=
  (environment.find? (·.1 == name)).map (·.2)

/-- Sets a variable: one that is set keeps its place. -/
def set (environment : Environment) (name value : String) : Environment :=
  if environment.any (·.1 == name) then
    environment.map fun entry => if entry.1 == name then (name, value) else entry
  else environment ++ [(name, value)]

/-- Unsets a variable. -/
def erase (environment : Environment) (name : String) : Environment :=
  environment.filter (·.1 != name)

/-- The names that are set. -/
def names (environment : Environment) : List String :=
  environment.map (·.1)

/-- An environment with the variables of another one set on top. -/
def overlay (environment added : Environment) : Environment :=
  added.foldl (fun result entry => result.set entry.1 entry.2) environment

/-- An environment on one line. -/
def shown (environment : Environment) : String :=
  "\x7b" ++ ", ".intercalate (environment.map fun (name, value) =>
    Text.quoted name ++ ": " ++ Text.quoted value) ++ "\x7d"

end Environment

end EventHooks
