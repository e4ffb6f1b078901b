import EventHooks.Text.Regex
import EventHooks.Utility.FileTree

/-!
# Searching lines

Lines that match a pattern are written, counted or only noticed; so are the files that hold some.
-/
namespace EventHooks.Utility

/-! ## Patterns -/

/-- The ways in which patterns are written. -/
inductive PatternKind
  | basic
  | extended
  | fixed
  deriving DecidableEq

/-- The expression that matches characters as they are. -/
def literalRegex (text : String) : Regex :=
  text.toList.foldr (fun c rest => .sequence (.char c) rest) .empty

/-- The expression of a pattern. -/
def patternRegex (kind : PatternKind) (text : String) : Except Regex.Fault Regex :=
  match kind with
  | .fixed => .ok (literalRegex text)
  | .basic => Regex.read { isExtended := false } text
  | .extended => Regex.read { isExtended := true } text

/-- The expression for the lines of some patterns. -/
def patternsRegex (kind : PatternKind) (wholeWords wholeLines : Bool) (patterns : List String) :
    Except Regex.Fault (Option Regex) := do
  let regexes ← patterns.mapM (patternRegex kind)
  let framed := regexes.map fun regex =>
    if wholeLines then .sequence .lineStart (.sequence regex .lineEnd)
    else if wholeWords then .sequence .noWordBefore (.sequence regex .noWordAfter)
    else regex
  return framed.foldl (fun (all? : Option Regex) regex =>
    some (all?.elim regex fun all => .either all regex)) none

/-- The lines of a pattern. -/
def patternLines (text : String) : List String :=
  (Path.splitOn '\n' text.toList).map String.ofList

/-! ## Searching -/

/-- How a search goes on and what it writes. -/
structure Search where
  options : List (Char × String)
  regex? : Option Regex
  before : Nat
  after : Nat
  limit? : Option Nat
  hasNames : Bool

namespace Search

/-- Whether an option of the search is given. -/
def has (search : Search) (letter : Char) : Bool :=
  given search.options letter

/-- Whether only counts, names or the status are asked for. -/
def isQuiet (search : Search) : Bool :=
  ['q', 'c', 'l', 'L'].any search.has

/-- A line as the subject of the search. -/
def subject (search : Search) (line : Bytes) : Regex.Subject :=
  ⟨(ByteText.ofBytes line).toList.toArray, search.has 'i' || search.has 'y'⟩

/-- Whether a line is one of those that are searched. -/
def selects (search : Search) (line : Bytes) : Bool :=
  search.regex?.any (fun regex => (regex.search? (search.subject line)).isSome) != search.has 'v'

/-- The matches in a line that are not empty. -/
def matchesIn (search : Search) (subject : Regex.Subject) : Nat → Nat → List (Nat × Nat)
  | 0, _ => []
  | fuel + 1, place =>
    match search.regex?.bind (·.search? subject place) with
    | none => []
    | some found =>
      if found.stop = found.start then matchesIn search subject fuel (found.start + 1)
      else (found.start, found.stop) :: matchesIn search subject fuel found.stop

end Search

/-- Where the search of an input stands: the number of the line, how many lines were found, how many
are still written that follow the last one, the lines before the present one that may still be
written, and the last one that was. -/
structure SearchState where
  number : Nat := 0
  count : Nat := 0
  following : Nat := 0
  waiting : List (Nat × Bytes) := []
  lastShown : Nat := 0
  offset : Nat := 0

/-- Writes a line with its name and number before it. -/
def Search.show (search : Search) (call : Call) (name : String) (mark : String) (number : Nat)
    (line : Bytes) : Gathering Unit := do
  let lead := (if search.hasNames then name ++ mark else "") ++
    (if search.has 'n' then toString number ++ mark else "")
  call.emit (ByteText.toBytes lead ++ line ++ [10])

/-- Takes in a line. -/
def Search.step (search : Search) (call : Call) (name : String) (state : SearchState)
    (line : Bytes) : Gathering (SearchState × Bool) := do
  let state := { state with number := state.number + 1 }
  if search.selects line then
    let state := { state with count := state.count + 1 }
    let isLast := search.limit?.any (· ≤ state.count)
    if search.isQuiet then
      let isKnown := ['q', 'l', 'L'].any search.has
      return (state, !isKnown && !isLast)
    else
      if search.has 'o' then
        if !search.has 'v' then
          let subject := search.subject line
          for (start, stop) in search.matchesIn subject (line.length + 2) 0 do
            search.show call name ":" state.number ((line.take stop).drop start)
        return (state, !isLast)
      else
        let waiting := state.waiting.reverse
        let firstShown := (waiting.head?.map (·.1)).getD state.number
        let hasContext := 0 < search.before || 0 < search.after
        if hasContext && 0 < state.lastShown && state.lastShown + 1 < firstShown then
          call.emitText "--\n"
        for (number, text) in waiting do search.show call name "-" number text
        search.show call name ":" state.number line
        let next := { state with
          following := search.after, waiting := [], lastShown := state.number }
        return (next, !isLast)
  else if 0 < state.following && !search.isQuiet && !search.has 'o' then
    search.show call name "-" state.number line
    return ({ state with following := state.following - 1, lastShown := state.number }, true)
  else
    return ({ state with waiting := ((state.number, line) :: state.waiting).take search.before },
      true)

/-- Searches an input. The result tells whether something was found. -/
def Search.input (search : Search) (call : Call) (path : String) (handle : Nat) :
    Gathering (Bool × Option Errno) := do
  let name := if path == "-" then "(standard input)" else path
  let (state, errno?) ← foldLines handle (fun state line _ => search.step call name state line)
    ({} : SearchState)
  if errno?.isNone then
    let isFound := 0 < state.count
    if search.has 'q' then pure ()
    else if search.has 'l' then if isFound then call.emitText (name ++ "\n")
    else if search.has 'L' then if !isFound then call.emitText (name ++ "\n")
    else if search.has 'c' then
      call.emitText ((if search.hasNames then name ++ ":" else "") ++ toString state.count ++ "\n")
  return (0 < state.count, errno?)

/-! ## Inputs -/

/-- The files at a path and below it. -/
def filesBelow (path : String) : Nat → Program (List String)
  | 0 => return []
  | fuel + 1 => do
    match ← placeOf path with
    | .ok (.present location .directory) =>
      let names ← namesAt location
      let below ← names.mapM fun name => filesBelow (within path name) fuel
      return below.flatten
    | _ => return [path]

/-- The words for a wrong call. -/
def grepUsage (call : Call) : String :=
  s!"Usage: {call.name} [OPTION]... PATTERNS [FILE]...\n" ++
    s!"Try '{call.name} --help' for more information.\n"

/-- The option `-NUM` as one that takes its value. -/
def contextOption (word : String) : String :=
  match word.toList with
  | '-' :: digits =>
    if !digits.isEmpty && digits.all (·.isDigit) then "-C" ++ String.ofList digits else word
  | _ => word

/-- Searches lines for patterns that are written in a way by default. -/
def grepTool (kind : PatternKind) : Tool := fun call => do
  let call := call.failingWith 2
  let known : Known :=
    { letters := "abce:f:hilnoqrsvwxyzA:B:C:EFGHIK:LPRTUm:", failure := 2
      long := [("regexp", 'e'), ("file", 'f'), ("ignore-case", 'i'), ("invert-match", 'v'),
        ("word-regexp", 'w'), ("line-regexp", 'x'), ("count", 'c'), ("quiet", 'q'),
        ("silent", 'q'), ("no-messages", 's'), ("line-number", 'n'), ("with-filename", 'H'),
        ("no-filename", 'h'), ("only-matching", 'o'), ("files-with-matches", 'l'),
        ("files-without-match", 'L'), ("max-count", 'm'), ("after-context", 'A'),
        ("before-context", 'B'), ("context", 'C'), ("extended-regexp", 'E'),
        ("fixed-strings", 'F'), ("basic-regexp", 'G'), ("perl-regexp", 'P'), ("recursive", 'r'),
        ("text", 'a'), ("color", 'K'), ("colour", 'K'), ("include", 'K'), ("exclude", 'K')] }
  let arguments := (call.arguments.map contextOption).filter fun word =>
    word != "--color" && word != "--colour"
  let (options, words) ← { call with arguments := arguments }.parse known
  let kind := match lastOf? options ['E', 'F', 'G', 'P'] with
    | some 'E' | some 'P' => .extended
    | some 'F' => .fixed
    | some _ => .basic
    | none => kind
  let sources := options.filter fun option => option.1 == 'e' || option.1 == 'f'
  let (patterns, paths) ← if sources.isEmpty then
      match words with
      | [] =>
        let _ ← Program.write 2 (ByteText.toBytes (grepUsage call))
        call.quit 2
      | pattern :: paths => pure (patternLines pattern, paths)
    else
      let patterns ← sources.mapM fun option => do
        if option.1 == 'e' then pure (patternLines option.2)
        else
          match ← call.contents option.2 with
          | .ok content => pure ((linesOf content).map ByteText.ofBytes)
          | .error errno =>
            call.complain s!"{option.2}: {errno.words}"
            call.quit 2
      pure (patterns.flatten, words)
  let amountOf (letter : Char) : Option Nat := (valueOf? options letter).bind (·.toNat?)
  let isRecursive := given options 'r' || given options 'R'
  let wanted := if paths.isEmpty then [if isRecursive then "." else "-"] else paths
  let listed ← if isRecursive then do
      let found ← wanted.mapM fun path => filesBelow path 1000
      let shorten (path : String) : String :=
        if paths.isEmpty then String.ofList (path.toList.drop 2) else path
      pure (found.flatten.map shorten)
    else pure wanted
  match patternsRegex kind (given options 'w') (given options 'x') patterns with
  | .error fault =>
    call.complain fault.message
    return 2
  | .ok regex? =>
    let hasNames := (lastOf? options ['h', 'H']).elim (isRecursive || 1 < wanted.length) (· == 'H')
    let context := (amountOf 'C').getD 0
    let search : Search :=
      { options := options, regex? := regex?, before := (amountOf 'B').getD context
        after := (amountOf 'A').getD context, limit? := amountOf 'm', hasNames := hasNames }
    call.gathering do
      let body : StateT Bool Gathering Nat := forEach (fun path => do
        if (← get) && given options 'q' then return 0
        let refuse (errno : Errno) : StateT Bool Gathering Nat := do
          if !given options 's' then
            let name := if path == "-" then "(standard input)" else path
            call.complain s!"{name}: {errno.words}"
          return 2
        match ← (call.openInput path : Program _) with
        | .error errno => refuse errno
        | .ok handle =>
          let isQuiet := ['c', 'q', 'l', 'L'].any (given options) || amountOf 'm' == some 1
          if !isQuiet && (← (call.fedBack? handle : Program _)).isSome then
            let name := if path == "-" then "(standard input)" else path
            call.complain s!"{name}: input file is also the output"
            return 2
          let (isFound, errno?) ← (search.input call path handle : Gathering _)
          modify (· || (isFound != given options 'L'))
          match errno? with
          | some errno => refuse errno
          | none => return 0) listed 0
      let (status, isFound) ← body.run false
      return if isFound && (given options 'q' || status = 0) then 0
        else if status = 0 then 1
        else status

end EventHooks.Utility
