import EventHooks.Utility.Launch

/-!
# Arguments from the input

The input is parted into items, which become arguments of commands: all of one, some number of each,
or each in the place of a mark.
-/
namespace EventHooks.Utility

/-- The words of a text, the last one first, and a quote that is not closed, if there is one. Blanks
and line feeds part words, unless they are quoted. -/
def quotedWords : Nat → List Char → Option (List Char) → List String → List String × Option Char
  | 0, _, _, done => (done, none)
  | _, [], word?, done =>
    (match word? with
      | some word => String.ofList word.reverse :: done
      | none => done, none)
  | fuel + 1, c :: rest, word?, done =>
    let word := word?.getD []
    if c == ' ' || c == '\t' || c == '\n' then
      match word? with
      | some word => quotedWords fuel rest none (String.ofList word.reverse :: done)
      | none => quotedWords fuel rest none done
    else if c == '\\' then
      match rest with
      | d :: rest => quotedWords fuel rest (some (d :: word)) done
      | [] => quotedWords fuel [] (some word) done
    else if c == '\'' || c == '"' then
      let inside := rest.takeWhile fun d => d != c && d != '\n'
      match rest.drop inside.length with
      | '\n' :: _ | [] => (done, some c)
      | _ :: rest => quotedWords fuel rest (some (inside.reverse ++ word)) done
    else quotedWords fuel rest (some (c :: word)) done

/-- A text in which every place of a word is taken by another one. -/
def replaceAll (word other : List Char) : Nat → List Char → List Char
  | 0, text => text
  | _, [] => []
  | fuel + 1, c :: rest =>
    if !word.isEmpty && word.isPrefixOf (c :: rest) then
      other ++ replaceAll word other fuel ((c :: rest).drop word.length)
    else c :: replaceAll word other fuel rest

/-- Parts items into groups of at most some number. -/
def groups (count : Nat) : Nat → List String → List (List String)
  | 0, items => [items]
  | _, [] => []
  | fuel + 1, items => items.take count :: groups count fuel (items.drop count)

/-- Runs commands one after the other. The status tells what has become of them. -/
def runEach (call : Call) (traces : Bool) : List (List String) → Nat → Program Nat
  | [], status => return status
  | [] :: rest, status => runEach call traces rest status
  | (name :: arguments) :: rest, status => do
    if traces then
      let _ ← Program.write 2 (ByteText.toBytes (" ".intercalate (name :: arguments) ++ "\n"))
    match ← findImage name arguments call.environment call.environment with
    | .error errno =>
      call.complain s!"{name}: {errno.words}"
      return unrunStatus errno
    | .ok image =>
      let child ← Program.fork do
        match ← Program.openPath "/dev/null" Opening.input with
        | .ok handle => Program.attach 0 handle
        | .error _ => pure ()
        becomeImage call image
      match ← Program.awaitEnd child with
      | .exited 0 => runEach call traces rest status
      | .exited 255 =>
        call.complain s!"{name}: exited with status 255; aborting"
        return 124
      | .exited _ => runEach call traces rest 123
      | .killed signal =>
        call.complain s!"{name}: terminated by signal {signal}"
        return 125

/-- Parts items into groups whose sizes stay below a limit, where each item has one more than its
length. The present group comes last first. -/
def groupsWithin (limit : Nat) : List String → Nat → List String → List (List String)
  | [], _, group => if group.isEmpty then [] else [group.reverse]
  | item :: items, size, group =>
    if !group.isEmpty && limit < size + item.length + 1 then
      group.reverse :: groupsWithin limit items (item.length + 1) [item]
    else groupsWithin limit items (size + item.length + 1) (item :: group)

/-- The arguments with those that carry an optional value written as ones that take it behind an
equals sign. -/
def valueOptions (letters : List (Char × Char)) (arguments : List String) : List String :=
  arguments.map fun word =>
    match word.toList with
    | '-' :: letter :: value =>
      match letters.find? (·.1 == letter) with
      | some (_, full) => String.ofList ('-' :: full :: '=' :: value)
      | none => word
    | _ => word

/-- The lines of a text that have more than blanks. One that ends with a blank goes on with the next
one. -/
def joinedLines : List String → List String
  | [] => []
  | line :: rest =>
    if !line.toList.any (!CharClass.isSpace ·) then joinedLines rest
    else
      match joinedLines rest with
      | next :: others =>
        if line.endsWith " " || line.endsWith "\t" then (line ++ next) :: others
        else line :: next :: others
      | [] => [line]

/-- How items become commands: the command that they are added to, the byte that parts them instead
of blanks, the mark that they take the place of, how many lines or items each command takes, the
size that it may have, and the item at which the input ends. -/
structure Gatherer where
  command : List String
  separator? : Option Char := none
  mark? : Option String := none
  lineLimit? : Option Nat := none
  countLimit? : Option Nat := none
  sizeLimit? : Option Nat := none
  stop? : Option String := none

namespace Gatherer

/-- The pieces of a text between the places of a character. -/
def pieces (c : Char) (text : List Char) : List String :=
  let parts := (Path.splitOn c text).map String.ofList
  if parts.getLast? == some "" then parts.dropLast else parts

/-- The words of a text, and a quote that is not closed. -/
def wordsOf (text : String) : List String × Option Char :=
  let (words, open?) := quotedWords (text.length + 1) text.toList none []
  (words.reverse, open?)

/-- The items up to the one at which the input ends. -/
def upToStop (gatherer : Gatherer) (items : List String) : List String :=
  match gatherer.stop? with
  | some "" | none => items
  | some stop => items.takeWhile (· != stop)

/-- The commands with a line in the place of the mark. -/
def replaced (gatherer : Gatherer) (mark : String) (text : List Char) : List (List String) :=
  let isBlank (c : Char) : Bool := c == ' ' || c == '\t'
  let lines := (pieces (gatherer.separator?.getD '\n') text).map fun line =>
    String.ofList (line.toList.dropWhile isBlank)
  (gatherer.upToStop (lines.filter (· != ""))).map fun line =>
    gatherer.command.map fun word =>
      String.ofList (replaceAll mark.toList line.toList (word.length + 1) word.toList)

/-- The commands with items in groups. The items before a quote that is not closed only make up
those commands that they fill. -/
def grouped (gatherer : Gatherer) (items : List String) (isOpen : Bool) : List (List String) :=
  let size := (gatherer.command.map fun word => word.length + 1).foldl (· + ·) 0
  let parts := match gatherer.countLimit?, gatherer.sizeLimit? with
    | some count, _ => groups count (items.length + 1) items
    | none, some limit => groupsWithin (limit - size) items 0 []
    | none, none => if items.isEmpty then [] else [items]
  let full := if isOpen then
      parts.filter fun part => gatherer.countLimit? == some part.length
    else parts
  full.map (gatherer.command ++ ·)

/-- The commands for a text, and a quote that is not closed. -/
def commands (gatherer : Gatherer) (text : List Char) : List (List String) × Option Char :=
  match gatherer.mark?, gatherer.separator?, gatherer.lineLimit? with
  | some mark, _, _ => (gatherer.replaced mark text, none)
  | none, some c, _ => (gatherer.grouped (pieces c text) false, none)
  | none, none, some size =>
    let lines := joinedLines (pieces '\n' text)
    ((groups size (lines.length + 1) lines).map fun lines =>
      gatherer.command ++ lines.flatMap fun line => (wordsOf line).1, none)
  | none, none, none =>
    let (items, open?) := wordsOf (String.ofList text)
    (gatherer.grouped (gatherer.upToStop items) open?.isSome, open?)

end Gatherer

/-- The character that an option names as the one between items. -/
def separatorOf? (text : String) : Option Char :=
  match text.toList with
  | ['\\', letter] =>
    match letter with
    | 'n' => some '\n'
    | 't' => some '\t'
    | '0' => some '\x00'
    | letter => some letter
  | '\\' :: 'x' :: digits =>
    if digits.all fun c => (FloatText.hexDigit? c).isSome then
      some (Char.ofNat (FloatText.digitsValue 16 digits % 256))
    else none
  | '\\' :: digits =>
    if digits.all fun c => '0' ≤ c && c < '8' then
      some (Char.ofNat (FloatText.digitsValue 8 digits % 256))
    else none
  | [c] => some c
  | _ => none

/-- The number of an option, which is one at least unless it counts processes. -/
def limitOf (call : Call) (letter : Char) (text : String) : Program Nat := do
  match text.toNat? with
  | some number =>
    if number = 0 && letter != 'P' then
      call.misuse s!"value 0 for -{letter} option should be >= 1"
    else return number
  | none => call.misuse s!"invalid number \"{text}\" for -{letter} option"

/-- How the options of a call make commands. -/
def gathererOf (call : Call) (options : List (Char × String)) (words : List String) :
    Program Gatherer := do
  let behind (letter : Char) : Option String :=
    (valueOf? options letter).map fun value => (value.drop 1).toString
  let count? ← (valueOf? options 'n').mapM (limitOf call 'n')
  let _ ← (valueOf? options 'P').mapM (limitOf call 'P')
  let size? ← (valueOf? options 's').mapM (limitOf call 's')
  let lines? ← match valueOf? options 'L', behind 'N' with
    | some text, _ => some <$> limitOf call 'L' text
    | none, some "" => pure (some 1)
    | none, some text => some <$> limitOf call 'l' text
    | none, none => pure none
  let mark? := (valueOf? options 'I').or ((behind 'R').map fun mark =>
    if mark.isEmpty then "\x7b\x7d" else mark)
  let separator? ← (valueOf? options 'd').mapM fun text =>
    match separatorOf? text with
    | some c => pure c
    | none => do
      call.complain (
        s!"Invalid input delimiter specification {text}: the delimiter must be either " ++
        "a single character or an escape sequence starting with \\.")
      call.quit 1
  return {
    command := if words.isEmpty then ["echo"] else words
    separator? := if given options '0' then some '\x00' else separator?
    mark? := mark?
    lineLimit? := lines?
    countLimit? := count?
    sizeLimit? := size?
    stop? := (valueOf? options 'E').or (behind 'X') }

/-- Runs a command with arguments from the standard input. -/
def xargs : Tool := fun call => do
  let known : Known :=
    { letters := "0n:I:L:rtd:P:a:xE:R:N:X:s:po", stops := true
      long := [("null", '0'), ("max-args", 'n'), ("no-run-if-empty", 'r'), ("verbose", 't'),
        ("replace", 'I'), ("max-lines", 'L'), ("delimiter", 'd'), ("max-procs", 'P'),
        ("arg-file", 'a'), ("max-chars", 's'), ("interactive", 'p'), ("exit", 'x')] }
  let before := call.arguments.takeWhile (·.startsWith "-")
  let arguments := valueOptions [('i', 'R'), ('l', 'N'), ('e', 'X')] before ++
    call.arguments.drop before.length
  let (options, words) ← { call with arguments := arguments }.parse known
  let gatherer ← gathererOf call options words
  let path := (valueOf? options 'a').getD "-"
  match ← call.contents path with
  | .error errno =>
    call.complain s!"Cannot open input file {quoted path}: {errno.words}"
    return 1
  | .ok content =>
    let (commands, open?) := gatherer.commands (ByteText.ofBytes content).toList
    let isAlways := commands.isEmpty && !given options 'r' && gatherer.mark?.isNone &&
      open?.isNone
    let commands := if isAlways then [gatherer.command] else commands
    let status ← runEach call (given options 't') commands 0
    match open? with
    | none => return status
    | some quote =>
      let kind := if quote == '"' then "double" else "single"
      call.complain (s!"unmatched {kind} quote; by default quotes are special to xargs unless " ++
        "you use the -0 option")
      return 1

end EventHooks.Utility
