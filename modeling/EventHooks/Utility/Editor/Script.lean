import EventHooks.Number.FloatText
import EventHooks.Text.Regex
import EventHooks.Utility.Call

/-!
# Scripts of the stream editor

A script is a sequence of commands, each with the lines that it is for. Faults are reported with
their place in the script.
-/
namespace EventHooks.Utility.Editor

/-! ## Commands -/

/-- An expression of a script, with whether the case of letters does not count. None stands for the
one that was used last. -/
abbrev Pattern := Option (Regex × Bool)

/-- A test of a line. -/
inductive LineTest
  | number (number : Nat)
  | step (first step : Nat)
  | last
  | pattern (pattern : Pattern)

/-- The end of a range of lines. -/
inductive RangeEnd
  | test (test : LineTest)
  | count (count : Nat)
  | multiple (number : Nat)

/-- The lines that a command is for. -/
structure Selector where
  first? : Option LineTest := none
  last? : Option RangeEnd := none
  isNegated : Bool := false

/-- A change of the case of letters: of all that follow up to the end, or of the next one. -/
inductive CaseChange
  | upper
  | lower
  | ending
  | nextUpper
  | nextLower
  deriving DecidableEq

/-- A part of a replacement. -/
inductive Replacement
  | char (c : Char)
  | group (number : Nat)
  | change (change : CaseChange)

/-- A substitution: the match from which on it replaces, whether it replaces those that follow too,
and what happens to the result. -/
structure Substitution where
  pattern : Pattern
  replacement : List Replacement
  place : Nat := 1
  isGlobal : Bool := false
  prints : Bool := false
  output? : Option String := none

/-- When a jump is taken: always, after a substitution, or if there was none. -/
inductive JumpKind
  | always
  | substituted
  | unsubstituted
  deriving DecidableEq

/-- What a command does. A block and a jump tell where to go on. -/
inductive Action
  | block (stop : Nat)
  | nothing
  | append (text : String)
  | insert (text : String)
  | change (text : String)
  | delete
  | deleteFirst
  | get (appends : Bool)
  | hold (appends : Bool)
  | exchange
  | list (width : Option Nat)
  | next
  | appendNext
  | print
  | printFirst
  | quit (status : Nat) (prints : Bool)
  | readFile (path : String)
  | readLine (path : String)
  | writeFile (path : String)
  | writeFirst (path : String)
  | substitute (substitution : Substitution)
  | translate (pairs : List (Char × Char))
  | label (name : String)
  | jump (kind : JumpKind) (name : String)
  | number
  | clear
  | fileName

/-- A command. -/
structure Command where
  selector : Selector
  action : Action

/-! ## Faults -/

/-- A fault of a script, with how much of the script was read. -/
structure Fault where
  message : String
  place : Nat

/-- What is left of a script, and the commands that were read, the last one first, with the blocks
that are not closed. -/
structure ScriptState where
  rest : List Char
  total : Nat
  commands : List Command := []
  pending : List Nat := []

/-- Readers of scripts. -/
abbrev Reader := StateT ScriptState (Except Fault)

/-- Fails at the present place. -/
def fail {α : Type} (message : String) : Reader α := do
  let state ← get
  throw ⟨message, state.total - state.rest.length⟩

/-- The next character. -/
def peek : Reader (Option Char) :=
  return (← get).rest.head?

/-- Takes a character. -/
def take : Reader (Option Char) := do
  let state ← get
  match state.rest with
  | c :: rest =>
    set { state with rest := rest }
    return some c
  | [] => return none

/-- Takes the characters that pass a test. -/
def takeWhile (holds : Char → Bool) : Reader (List Char) := do
  let state ← get
  let run := state.rest.takeWhile holds
  set { state with rest := state.rest.drop run.length }
  return run

/-- Drops blanks. -/
def skipBlanks : Reader Unit := do
  let _ ← takeWhile fun c => c == ' ' || c == '\t'

/-- Drops blanks and line feeds. -/
def skipSpace : Reader Unit := do
  let _ ← takeWhile CharClass.isSpace

/-- Takes a number. -/
def takeNumber : Reader Nat := do
  let digits ← takeWhile (·.isDigit)
  return digits.foldl (fun value c => value * 10 + (c.toNat - '0'.toNat)) 0

/-! ## Expressions -/

/-- What a backslash and a letter stand for. -/
def escape? : Char → Option Char
  | 'n' => some '\n'
  | 't' => some '\t'
  | 'f' => some '\x0c'
  | 'v' => some '\x0b'
  | 'a' => some '\x07'
  | 'r' => some '\r'
  | _ => none

/-- The characters of a set behind its opening bracket, with the closing one. `isFirst` tells that a
bracket would be a member. -/
def setChars : Nat → Bool → List Char → Option (List Char)
  | 0, _, _ => none
  | fuel + 1, isFirst, chars =>
    match chars with
    | [] => none
    | ']' :: rest =>
      if isFirst then (setChars fuel false rest).map (']' :: ·) else some [']']
    | '[' :: mark :: rest =>
      if mark == ':' || mark == '.' || mark == '=' then
        let name := rest.takeWhile (· != mark)
        let taken := '[' :: mark :: name ++ (rest.drop name.length).take 2
        (setChars fuel false (chars.drop taken.length)).map (taken ++ ·)
      else (setChars fuel false (mark :: rest)).map ('[' :: ·)
    | c :: rest => (setChars fuel (isFirst && c == '^') rest).map (c :: ·)

/-- Takes characters up to one that ends them. Within an expression, an escaped one of these stands
for itself, and one in a set does too. -/
def takeUntil (ending : Char) (inPattern : Bool) : Nat → List Char → Reader (Option (List Char))
  | 0, _ => return none
  | fuel + 1, done => do
    match ← take with
    | none => return none
    | some '\\' =>
      match ← take with
      | none => return none
      | some c =>
        if c == ending && (inPattern || c != '&') then
          takeUntil ending inPattern fuel (c :: done)
        else takeUntil ending inPattern fuel (c :: '\\' :: done)
    | some c =>
      if c == ending then return some done.reverse
      else if c == '[' && inPattern then
        let state ← get
        match setChars (state.rest.length + 1) true state.rest with
        | some members =>
          set { state with rest := state.rest.drop members.length }
          takeUntil ending inPattern fuel (members.reverse ++ c :: done)
        | none =>
          set { state with rest := [] }
          return none
      else takeUntil ending inPattern fuel (c :: done)

/-- Takes characters up to one that ends them. -/
def takeDelimited (ending : Char) (inPattern : Bool) : Reader (Option (List Char)) := do
  takeUntil ending inPattern ((← get).rest.length + 1) []

/-- The value of a digit in a base. -/
def digitIn? (base : Nat) (c : Char) : Option Nat :=
  (FloatText.hexDigit? c).filter (· < base)

/-- What stands behind a backslash and is written as a number, or as a control character: the
character and what follows. -/
def numbered? : List Char → Option (Char × List Char)
  | [] => none
  | 'c' :: letter :: rest => some (Char.ofNat (letter.toUpper.toNat ^^^ 64), rest)
  | letter :: rest =>
    let (base, most) := match letter with
      | 'x' => (16, 2)
      | 'o' => (8, 3)
      | 'd' => (10, 3)
      | _ => (0, 0)
    let digits := (rest.take most).takeWhile fun c => (digitIn? base c).isSome
    if digits.isEmpty then none
    else
      let value := digits.foldl (fun value c => value * base + (digitIn? base c).getD 0) 0
      some (Char.ofNat (value % 256), rest.drop digits.length)

/-- Characters with those that numbers behind a backslash stand for. In a replacement these have no
meaning of their own. -/
def withNumbered (inReplacement : Bool) : Nat → List Char → List Char
  | 0, chars => chars
  | fuel + 1, '\\' :: rest =>
    match numbered? rest, rest with
    | some (c, rest), _ =>
      (if inReplacement && (c == '&' || c == '\\') then ['\\', c] else [c]) ++
        withNumbered inReplacement fuel rest
    | none, c :: rest => '\\' :: c :: withNumbered inReplacement fuel rest
    | none, [] => ['\\']
  | fuel + 1, c :: rest => c :: withNumbered inReplacement fuel rest
  | _, [] => []

/-- The number of the last group of an expression. -/
def groupCount : Regex → Nat
  | .group number inner => max number (groupCount inner)
  | .sequence first second | .either first second => max (groupCount first) (groupCount second)
  | .repeated inner .. => groupCount inner
  | _ => 0

/-- The pattern that characters write. None at all stand for the one that was used last. -/
def readPattern (isExtended ignoresCase : Bool) (chars : List Char) : Reader Pattern := do
  if chars.isEmpty then return none
  let text := String.ofList (withNumbered false (chars.length + 1) chars)
  match Regex.read { isExtended := isExtended, escape? := escape?, repeatsOnce := true } text with
  | .ok regex => return some (regex, ignoresCase)
  | .error fault => fail fault.message

/-- The parts of a replacement. -/
def replacementParts : Nat → List Char → List Replacement
  | 0, _ => []
  | _, [] => []
  | fuel + 1, '\\' :: c :: rest =>
    let part : Replacement :=
      match c with
      | 'U' => .change .upper
      | 'L' => .change .lower
      | 'E' => .change .ending
      | 'u' => .change .nextUpper
      | 'l' => .change .nextLower
      | c => if c.isDigit then .group (c.toNat - '0'.toNat) else .char ((escape? c).getD c)
    part :: replacementParts fuel rest
  | fuel + 1, '&' :: rest => .group 0 :: replacementParts fuel rest
  | fuel + 1, c :: rest => .char c :: replacementParts fuel rest

/-! ## Lines -/

/-- Reads the flags behind the pattern of an address. -/
def readAddressFlags : Nat → Bool → Reader Bool
  | 0, ignoresCase => return ignoresCase
  | fuel + 1, ignoresCase => do
    match ← peek with
    | some 'I' =>
      let _ ← take
      readAddressFlags fuel true
    | some 'M' =>
      let _ ← take
      readAddressFlags fuel ignoresCase
    | _ => return ignoresCase

/-- Reads the test of a line, if there is one. -/
def readTest (isExtended : Bool) : Reader (Option LineTest) := do
  let pattern (ending : Char) : Reader (Option LineTest) := do
    match ← takeDelimited ending true with
    | none => fail "unterminated address regex"
    | some chars =>
      let ignoresCase ← readAddressFlags 4 false
      return some (.pattern (← readPattern isExtended ignoresCase chars))
  match ← peek with
  | some '$' =>
    let _ ← take
    return some .last
  | some '/' =>
    let _ ← take
    pattern '/'
  | some '\\' =>
    let _ ← take
    match ← take with
    | some c => pattern c
    | none => fail "unterminated address regex"
  | some c =>
    if !c.isDigit then return none
    else
      let number ← takeNumber
      if (← peek) == some '~' then
        let _ ← take
        return some (.step number (← takeNumber))
      else return some (.number number)
  | none => return none

/-- Reads the end of a range. -/
def readRangeEnd (isExtended : Bool) : Reader RangeEnd := do
  match ← peek with
  | some '+' =>
    let _ ← take
    return .count (← takeNumber)
  | some '~' =>
    let _ ← take
    return .multiple (← takeNumber)
  | _ =>
    match ← readTest isExtended with
    | some test => return .test test
    | none =>
      let _ ← take
      fail "unexpected \x60,'"

/-- Reads the lines that a command is for. -/
def readSelector (isExtended : Bool) : Reader Selector := do
  let first? ← readTest isExtended
  if first?.isSome then skipBlanks
  let last? ← if first?.isSome && (← peek) == some ',' then do
      let _ ← take
      skipBlanks
      pure (some (← readRangeEnd isExtended))
    else pure none
  skipBlanks
  match first?, last? with
  | some (.number 0), some (.test (.pattern _)) => pure ()
  | some (.number 0), _ =>
    let _ ← take
    fail "invalid usage of line address 0"
  | _, _ => pure ()
  if (← peek) == some '!' then
    let _ ← take
    skipBlanks
    if (← peek) == some '!' then
      let _ ← take
      fail "multiple \x60!'s"
    return ⟨first?, last?, true⟩
  else return ⟨first?, last?, false⟩

/-! ## Arguments of commands -/

/-- Reads the end of a command. -/
def endCommand : Reader Unit := do
  skipBlanks
  match ← peek with
  | none | some '}' | some '#' => return ()
  | some c =>
    let _ ← take
    if c != ';' && c != '\n' then fail "extra characters after command"

/-- Reads the lines of a text: a backslash keeps a line feed, writes a character by its number or
name, and is dropped before all else. -/
def textLines : Nat → List Char → Reader String
  | 0, done => return String.ofList done.reverse
  | fuel + 1, done => do
    match ← take with
    | none => return String.ofList ('\n' :: done).reverse
    | some '\n' => return String.ofList ('\n' :: done).reverse
    | some '\\' =>
      let state ← get
      match numbered? state.rest with
      | some (c, rest) =>
        set { state with rest := rest }
        textLines fuel (c :: done)
      | none =>
        match ← take with
        | some c => textLines fuel ((escape? c).getD c :: done)
        | none => return String.ofList ('\n' :: done).reverse
    | some c => textLines fuel (c :: done)

/-- Reads the text of a command. -/
def readText : Reader String := do
  skipBlanks
  let state ← get
  let fuel := state.rest.length + 2
  match state.rest with
  | [] => fail "expected \\ after \x60a', \x60c' or \x60i'"
  | '\\' :: rest =>
    match rest.dropWhile fun c => c == ' ' || c == '\t' with
    | [] =>
      set { state with rest := [] }
      return ""
    | '\n' :: rest =>
      set { state with rest := rest }
      textLines fuel []
    | _ =>
      set { state with rest := rest }
      textLines fuel []
  | _ => textLines fuel []

/-- Reads the name of a file up to the end of the line. -/
def readFileName : Reader String := do
  skipBlanks
  let chars ← takeWhile (· != '\n')
  if chars.isEmpty then fail "missing filename in r/R/w/W commands"
  let _ ← take
  return String.ofList chars

/-- Reads the name of a place in the script. -/
def readLabel : Reader String := do
  skipBlanks
  let chars ← takeWhile fun c => !CharClass.isSpace c && !";\x7d#".toList.contains c
  return String.ofList chars

/-- Reads the flags of a substitution. -/
def readFlags (isExtended : Bool) (pattern : List Char) :
    Nat → Bool → Bool → Substitution → Reader Substitution
  | 0, _, _, substitution => return substitution
  | fuel + 1, ignoresCase, hasPlace, substitution => do
    let finish : Reader Substitution := do
      let pattern ← readPattern isExtended ignoresCase pattern
      let groups := (pattern.map fun found => groupCount found.1).getD 9
      for part in substitution.replacement do
        match part with
        | .group number =>
          if groups < number then
            fail s!"invalid reference \\{number} on \x60s' command's RHS"
        | _ => pure ()
      return { substitution with pattern := pattern }
    match ← peek with
    | none | some '}' | some '#' => finish
    | some '\n' | some ';' =>
      let result ← finish
      let _ ← take
      return result
    | some 'w' =>
      let _ ← take
      let path ← readFileName
      let result ← finish
      return { result with output? := some path }
    | some c =>
      if c.isDigit then
        let number ← takeNumber
        if hasPlace then fail "multiple number options to \x60s' command"
        if number = 0 then fail "number option to \x60s' command may not be zero"
        readFlags isExtended pattern fuel ignoresCase true { substitution with place := number }
      else
        let _ ← take
        match c with
        | 'g' =>
          if substitution.isGlobal then fail "multiple \x60g' options to \x60s' command"
          readFlags isExtended pattern fuel ignoresCase hasPlace
            { substitution with isGlobal := true }
        | 'p' =>
          if substitution.prints then fail "multiple \x60p' options to \x60s' command"
          readFlags isExtended pattern fuel ignoresCase hasPlace
            { substitution with prints := true }
        | 'i' | 'I' => readFlags isExtended pattern fuel true hasPlace substitution
        | 'm' | 'M' | ' ' => readFlags isExtended pattern fuel ignoresCase hasPlace substitution
        | _ => fail "unknown option to \x60s'"

/-- Reads a substitution. -/
def readSubstitution (isExtended : Bool) : Reader Substitution := do
  let unterminated {α : Type} : Reader α := fail "unterminated \x60s' command"
  match ← take with
  | none => unterminated
  | some ending =>
    match ← takeDelimited ending true with
    | none => unterminated
    | some pattern =>
      match ← takeDelimited ending false with
      | none => unterminated
      | some chars =>
        let chars := withNumbered true (chars.length + 1) chars
        readFlags isExtended pattern ((← get).rest.length + 1) false false
          { pattern := none, replacement := replacementParts (chars.length + 1) chars }

/-- Characters without the backslashes before some of them. -/
def plainChars : List Char → List Char
  | '\\' :: c :: rest =>
    (if c == '\\' then ['\\'] else match escape? c with
      | some meant => [meant]
      | none => ['\\', c]) ++ plainChars rest
  | c :: rest => c :: plainChars rest
  | [] => []

/-- Reads the characters that take the place of others. -/
def readTranslation : Reader (List (Char × Char)) := do
  let unterminated {α : Type} : Reader α := fail "unterminated \x60y' command"
  match ← take with
  | none => unterminated
  | some ending =>
    match ← takeDelimited ending false with
    | none => unterminated
    | some first =>
      match ← takeDelimited ending false with
      | none => unterminated
      | some second =>
        let first := plainChars first
        let second := plainChars second
        if first.length != second.length then
          fail "strings for \x60y' command are different lengths"
        endCommand
        return first.zip second

/-! ## Scripts -/

/-- Reads what a command does. -/
def readAction (isExtended : Bool) (letter : Char) : Reader Action := do
  let plain (action : Action) : Reader Action := do
    endCommand
    return action
  match letter with
  | '=' => plain .number
  | 'a' => return .append (← readText)
  | 'i' => return .insert (← readText)
  | 'c' => return .change (← readText)
  | 'd' => plain .delete
  | 'D' => plain .deleteFirst
  | 'g' => plain (.get false)
  | 'G' => plain (.get true)
  | 'h' => plain (.hold false)
  | 'H' => plain (.hold true)
  | 'x' => plain .exchange
  | 'n' => plain .next
  | 'N' => plain .appendNext
  | 'p' => plain .print
  | 'P' => plain .printFirst
  | 'z' => plain .clear
  | 'F' => plain .fileName
  | 'l' =>
    skipBlanks
    let hasNumber := (← peek).any (·.isDigit)
    let number ← takeNumber
    plain (.list (if hasNumber then some number else none))
  | 'q' =>
    skipBlanks
    plain (.quit (← takeNumber) true)
  | 'Q' =>
    skipBlanks
    plain (.quit (← takeNumber) false)
  | 'r' => return .readFile (← readFileName)
  | 'R' => return .readLine (← readFileName)
  | 'w' => return .writeFile (← readFileName)
  | 'W' => return .writeFirst (← readFileName)
  | 'v' =>
    let _ ← readLabel
    plain .nothing
  | 's' => return .substitute (← readSubstitution isExtended)
  | 'y' => return .translate (← readTranslation)
  | 'b' => return .jump .always (← readLabel)
  | 't' => return .jump .substituted (← readLabel)
  | 'T' => return .jump .unsubstituted (← readLabel)
  | letter => fail s!"unknown command: \x60{letter}'"

/-- Adds a command. -/
def add (command : Command) : Reader Unit :=
  modify fun state => { state with commands := command :: state.commands }

/-- Reads commands to the end of the script. -/
def readCommands (isExtended : Bool) : Nat → Reader Unit
  | 0 => return ()
  | fuel + 1 => do
    let _ ← takeWhile fun c => c == ';' || CharClass.isSpace c
    let state ← get
    if state.rest.isEmpty then return ()
    else
      let selector ← readSelector isExtended
      match ← take with
      | none => fail "missing command"
      | some '#' =>
        if selector.first?.isSome then fail "comments don't accept any addresses"
        let _ ← takeWhile (· != '\n')
      | some ':' =>
        if selector.first?.isSome then fail ": doesn't want any addresses"
        let name ← readLabel
        if name.isEmpty then fail "\":\" lacks a label"
        add ⟨selector, .label name⟩
      | some '{' =>
        modify fun state => { state with pending := state.commands.length :: state.pending }
        add ⟨selector, .block 0⟩
      | some '}' =>
        let state ← get
        match state.pending with
        | [] => fail "unexpected \x60\x7d'"
        | start :: pending =>
          if selector.first?.isSome then fail "\x7d doesn't want any addresses"
          let place := state.commands.length - 1 - start
          let stop := state.commands.length
          set { state with
            pending := pending
            commands := state.commands.modify place fun command =>
              { command with action := .block stop } }
          endCommand
      | some letter =>
        let action ← readAction isExtended letter
        add ⟨selector, action⟩
      readCommands isExtended fuel

/-- The commands of a script. -/
def readScript (isExtended : Bool) (text : String) : Except Fault (Array Command) := do
  let chars := text.toList
  let start : ScriptState := { rest := chars, total := chars.length }
  let ((), state) ← (readCommands isExtended (chars.length + 1)).run start
  if !state.pending.isEmpty then throw ⟨"unmatched \x60\x7b'", 0⟩
  return state.commands.reverse.toArray

/-- The place of a label. -/
def labelPlace? (commands : Array Command) (name : String) : Option Nat :=
  if name.isEmpty then some commands.size
  else commands.findIdx? fun command =>
    match command.action with
    | .label other => other == name
    | _ => false

/-- The first label that a jump names and that is not there. -/
def missingLabel? (commands : Array Command) : Option String :=
  commands.toList.findSome? fun command =>
    match command.action with
    | .jump _ name => if (labelPlace? commands name).isNone then some name else none
    | _ => none

end EventHooks.Utility.Editor
