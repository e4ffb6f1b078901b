/-!
# Paths

A path is the names on the way from the root or from the working directory. Reading a path drops
empty names and single dots; two dots are kept, as they need the directory before them. A path that
starts with exactly two slashes keeps both.
-/
namespace EventHooks

/-- A path: its leading slashes and its names. -/
structure Path where
  root : String
  names : List String
  deriving DecidableEq, Repr

namespace Path

/-- The pieces of a list between separators. -/
def splitOn {α : Type} [DecidableEq α] (separator : α) : List α → List (List α)
  | [] => [[]]
  | x :: rest =>
    if x = separator then [] :: splitOn separator rest
    else
      match splitOn separator rest with
      | [] => [[x]]
      | piece :: pieces => (x :: piece) :: pieces

/-- The names of a text, with the empty ones. -/
def namesOf (text : String) : List String :=
  (splitOn '/' text.toList).map String.ofList

/-- The leading slashes that count. -/
def rootOf (text : String) : String :=
  match (text.toList.takeWhile (· == '/')).length with
  | 0 => ""
  | 2 => "//"
  | _ => "/"

/-- Reads a path. -/
def ofText (text : String) : Path :=
  ⟨rootOf text, (namesOf text).filter fun name => name ≠ "" ∧ name ≠ "."⟩

/-- The text of a path; the working directory is a dot. -/
def toText (path : Path) : String :=
  if path.root.isEmpty && path.names.isEmpty then "."
  else path.root ++ "/".intercalate path.names

/-- The path of an entry of a directory. -/
def child (path : Path) (name : String) : Path :=
  { path with names := path.names ++ [name] }

/-- The path of the directory that holds an entry; the root and the working directory hold
themselves. -/
def parent (path : Path) : Path :=
  { path with names := path.names.dropLast }

end Path

end EventHooks
