import EventHooks.Shell.Syntax
import EventHooks.System.FileStore
import EventHooks.Text.ByteText

/-!
# Tildes

A tilde at the start of a word stands for a home directory: that of the user whose name follows, or
the one of the session. In the value of a variable a tilde may also follow a colon.
-/
namespace EventHooks.Shell

/-- The home directory of a user, by the list of users. -/
def userHome? (files : FileStore) (name : List Char) : Option String :=
  match files.readFile "/etc/passwd" with
  | .error _ => none
  | .ok content =>
    let lines := Path.splitOn '\n' (ByteText.ofBytes content).toList
    lines.findSome? fun line =>
      match Path.splitOn ':' line with
      | user :: fields => if user == name then (fields[4]?).map String.ofList else none
      | [] => none

/-- The pieces of a plain text in which tildes stand for home directories. `isLast` tells that no
other part of the word follows. -/
def tildePieces (isValue isLast : Bool) (home? : List Char → Option String) :
    Nat → Bool → List Char → List Part
  | 0, _, _ => []
  | _, _, [] => []
  | fuel + 1, isStart, c :: rest =>
    let ends (c : Char) : Bool := c == '/' || (isValue && c == ':')
    let name := rest.takeWhile (!ends ·)
    let left := rest.drop name.length
    let found? := if isStart && c == '~' && (isLast || !left.isEmpty) then home? name else none
    match found? with
    | some home => .quoted home :: tildePieces isValue isLast home? fuel false left
    | none =>
      let plain := if isValue then (c :: rest).takeWhile (· != ':') else c :: rest
      let plain := if isValue && plain.length ≤ rest.length then plain ++ [':'] else plain
      .literal (String.ofList plain) ::
        tildePieces isValue isLast home? fuel true ((c :: rest).drop plain.length)

/-- The parts of a word in which tildes stand for home directories. -/
def expandTildes (isValue : Bool) (home? : List Char → Option String) (isStart : Bool) :
    Word → Word
  | [] => []
  | .literal text :: rest =>
    let pieces := if isStart || isValue then
        tildePieces isValue rest.isEmpty home? (text.length + 1) isStart text.toList
      else [.literal text]
    pieces ++ expandTildes isValue home? false rest
  | part :: rest => part :: expandTildes isValue home? false rest

/-- Whether a word has a tilde that may stand for a home directory. -/
def Word.hasTilde (isValue : Bool) (word : Word) : Bool :=
  if isValue then
    word.any fun
      | .literal text => text.toList.contains '~'
      | _ => false
  else
    match word with
    | .literal text :: _ => text.toList.head? == some '~'
    | _ => false

end EventHooks.Shell
