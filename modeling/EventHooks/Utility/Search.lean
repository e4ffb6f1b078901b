import EventHooks.Shell.Pattern
import EventHooks.Utility.Launch
import EventHooks.Utility.Listing

/-!
# Searching directories

The entries below some paths are visited. An expression says which of them count and what becomes of
them: its words are read one by one, its terms are put together by their strength, and it is judged
from the left to the right, as far as is needed for its truth.
-/
namespace EventHooks.Utility

open EventHooks.Shell (PatternChar matchesPattern)

/-! ## Expressions -/

/-- What a number has to be. -/
inductive Bound
  | above (limit : Nat)
  | below (limit : Nat)
  | exactly (value : Nat)

/-- Whether a number is as it has to be. -/
def Bound.admits (bound : Bound) (value : Nat) : Bool :=
  match bound with
  | .above limit => limit < value
  | .below limit => value < limit
  | .exactly wanted => value = wanted

/-- An expression about an entry, which is true or false of it and may have effects. -/
inductive Criterion
  | constant (truth : Bool)
  | named (whole foldsCase : Bool) (pattern : List PatternChar)
  | kind (letters : List Char)
  | empty
  | sized (unit : Nat) (bound : Bound)
  | newer (stamp : Int)
  | aged (unit : Nat) (bound : Bound)
  | permits (holds : Nat → Bool)
  | print (ending : String)
  | format (text : List Char)
  | remove
  | run (command : List String)
  | gather (command : List String)
  | prune
  | quit
  | negation (inner : Criterion)
  | both (left right : Criterion)
  | either (left right : Criterion)

/-- A word of an expression, or some words that belong together. -/
inductive Term
  | criterion (criterion : Criterion)
  | negation (word : String)
  | both (word : String)
  | either (word : String)
  | opening
  | closing

/-- What an expression says as a whole: its terms, how deep entries may lie, whether what is in a
directory is visited before it, and whether something is done with entries. -/
structure Plan where
  terms : List Term := []
  maxDepth? : Option Nat := none
  minDepth : Nat := 0
  contentsFirst : Bool := false
  acts : Bool := false

/-! ## Reading expressions -/

/-- The characters of a pattern. A backslash takes the meaning from the next one. -/
def patternOf (text : String) : List PatternChar :=
  text.toList.map (⟨·, true⟩)

/-- What a text demands of a number. -/
def boundOf? (text : List Char) : Option Bound :=
  let number (digits : List Char) : Option Nat := (String.ofList digits).toNat?
  match text with
  | '+' :: digits => (number digits).map .above
  | '-' :: digits => (number digits).map .below
  | digits => (number digits).map .exactly

/-- The bytes in a unit of size. -/
def sizeUnit? (letter : Char) : Option Nat :=
  [('c', 1), ('w', 2), ('b', 512), ('k', 1024), ('M', 1048576), ('G', 1073741824)].lookup letter

/-- The tests without arguments. -/
def plainTests : List (String × Criterion) :=
  [("-true", .constant true), ("-false", .constant false), ("-empty", .empty),
    ("-readable", .constant true), ("-writable", .constant true),
    ("-executable", .permits fun mode => mode &&& 73 != 0), ("-noleaf", .constant true),
    ("-mount", .constant true), ("-xdev", .constant true), ("-follow", .constant true),
    ("-warn", .constant true), ("-nowarn", .constant true), ("-prune", .prune)]

/-- The actions without arguments. -/
def plainActions : List (String × Criterion) :=
  [("-print", .print "\n"), ("-print0", .print "\x00"), ("-delete", .remove), ("-quit", .quit)]

/-- The operators by their words. -/
def operators : List (String × Term) :=
  [("(", .opening), (")", .closing), ("!", .negation "!"), ("-not", .negation "-not"),
    ("-a", .both "-a"), ("-and", .both "-and"), ("-o", .either "-o"), ("-or", .either "-or")]

/-- Refuses an expression. -/
def refuseSearch {α : Type} (call : Call) (message : String) : Program α := do
  call.complain message
  call.quit 1

/-- The kinds that a text names. -/
def kindsOf (call : Call) (text : String) : Program (List Char) := do
  let pieces := text.splitOn ","
  for piece in pieces do
    match piece.toList with
    | [] => refuseSearch call "Arguments to -type should contain at least one letter"
    | letter :: rest =>
      if !"bcdpflsD".toList.contains letter then
        refuseSearch call s!"Unknown argument to -type: {letter}"
      if !rest.isEmpty then
        refuseSearch call "Must separate multiple arguments to -type using: ','"
  return pieces.flatMap (·.toList)

/-- The permission bits that a text demands. -/
def permissionTest (call : Call) (text : String) : Program (Nat → Bool) := do
  let (mark, digits) := match text.toList with
    | '-' :: digits => ('-', digits)
    | '/' :: digits => ('/', digits)
    | digits => (' ', digits)
  if digits.isEmpty || !digits.all (fun c => '0' ≤ c && c ≤ '7') then
    refuseSearch call s!"invalid mode {quoted text}"
  let wanted := FloatText.digitsValue 8 digits
  return fun mode =>
    if mark == '-' then mode &&& wanted == wanted
    else if mark == '/' then wanted = 0 || mode &&& wanted != 0
    else mode == wanted

/-- Reads a test with an argument. -/
def testWith? (call : Call) (word value : String) : Program (Option Criterion) := do
  let missing : Program (Option Criterion) :=
    refuseSearch call s!"invalid argument \x60{value}' to \x60{word}'"
  match word with
  | "-name" => return some (.named false false (patternOf value))
  | "-iname" => return some (.named false true (patternOf value))
  | "-path" | "-wholename" => return some (.named true false (patternOf value))
  | "-ipath" | "-iwholename" => return some (.named true true (patternOf value))
  | "-type" => return some (.kind (← kindsOf call value))
  | "-perm" => return some (.permits (← permissionTest call value))
  | "-printf" => return some (.format value.toList)
  | "-size" =>
    let chars := value.toList
    let last := chars.getLastD 'b'
    let (unit?, number) := if last.isDigit then (some 512, chars)
      else (sizeUnit? last, chars.dropLast)
    match unit?, boundOf? number with
    | some unit, some bound => return some (.sized unit bound)
    | none, _ => refuseSearch call s!"invalid -size type \x60{last}'"
    | _, none => missing
  | "-mtime" | "-mmin" =>
    let unit := if word == "-mmin" then 60 else 86400
    match boundOf? value.toList with
    | some bound => return some (.aged unit bound)
    | none => missing
  | "-newer" =>
    match ← placeOf value with
    | .ok (.present location _) =>
      return some (.newer (← Program.observe fun _ world => world.stampOf location))
    | .error errno => refuseSearch call s!"{quoted value}: {errno.words}"
    | .ok (.vacant _) => refuseSearch call s!"{quoted value}: {Errno.noEntry.words}"
  | _ => return none

/-- Parts the words of a command from what follows its end, with whether it takes many entries at
once. -/
def commandWords? : List String → Option (List String × Bool × List String)
  | [] => none
  | ";" :: rest => some ([], false, rest)
  | "{}" :: "+" :: rest => some ([], true, rest)
  | word :: rest => (commandWords? rest).map fun (words, rest) => (word :: words, rest)

/-- Whether a word is one of an expression. -/
def isExpressionWord (isFirst : Bool) (word : String) : Bool :=
  match word.toList with
  | '-' :: rest => !rest.isEmpty
  | ['('] | ['!'] => true
  | [')'] | [','] => !isFirst
  | _ => false

/-- Takes in the words of an expression. -/
def readPlan (call : Call) : Nat → String → List String → Plan → Program Plan
  | 0, _, _, plan => return plan
  | _, _, [], plan => return { plan with terms := plan.terms.reverse }
  | fuel + 1, previous, word :: rest, plan => do
    let add (criterion : Criterion) (acts : Bool) (rest : List String) : Program Plan :=
      readPlan call fuel word rest
        { plan with terms := .criterion criterion :: plan.terms, acts := plan.acts || acts }
    let missing : Program Plan := refuseSearch call s!"missing argument to \x60{word}'"
    if !isExpressionWord false word then
      call.complain s!"paths must precede expression: \x60{word}'"
      if let .ok (.present ..) := ← placeOf word then
        call.complain s!"possible unquoted pattern after predicate \x60{previous}'?"
      call.quit 1
    else if let some term := operators.lookup word then
      readPlan call fuel word rest { plan with terms := term :: plan.terms }
    else if let some criterion := plainTests.lookup word then add criterion false rest
    else if let some criterion := plainActions.lookup word then
      readPlan call fuel word rest { plan with
        terms := .criterion criterion :: plan.terms, acts := true
        contentsFirst := plan.contentsFirst || word == "-delete" }
    else
      match word, rest with
      | "-depth", _ | "-d", _ => readPlan call fuel word rest { plan with contentsFirst := true }
      | "-maxdepth", value :: rest | "-mindepth", value :: rest =>
        match value.toNat? with
        | none =>
          refuseSearch call
            s!"Expected a positive decimal integer argument to {word}, but got {quoted value}"
        | some depth =>
          readPlan call fuel word rest
            (if word == "-maxdepth" then { plan with maxDepth? := some depth }
              else { plan with minDepth := depth })
      | "-exec", ";" :: _ => refuseSearch call s!"invalid argument \x60;' to \x60{word}'"
      | "-exec", rest =>
        match commandWords? rest with
        | some (command, true, rest) => add (.gather command) true rest
        | some (command, false, rest) => add (.run command) true rest
        | none => missing
      | _, value :: rest =>
        match ← testWith? call word value with
        | some criterion => add criterion (word == "-printf") rest
        | none => refuseSearch call s!"unknown predicate \x60{word}'"
      | _, [] =>
        let known := ["-name", "-iname", "-path", "-ipath", "-wholename", "-iwholename", "-type",
          "-perm", "-printf", "-size", "-mtime", "-mmin", "-newer", "-maxdepth", "-mindepth"]
        if known.contains word then missing
        else refuseSearch call s!"unknown predicate \x60{word}'"

/-- Puts together the terms of an expression. `after` is the operator in front of them, and `level`
tells what is looked for: alternatives, what holds together, or a single term. -/
def joinTerms : Nat → Nat → String → List Term → Except String (Criterion × List Term)
  | 0, _, _, _ => .error "invalid expression"
  | fuel + 1, 0, after, terms => do
    let (left, rest) ← joinTerms fuel 1 after terms
    match rest with
    | .either word :: rest =>
      let (right, rest) ← joinTerms fuel 0 word rest
      return (.either left right, rest)
    | rest => return (left, rest)
  | fuel + 1, 1, after, terms => do
    let (left, rest) ← joinTerms fuel 2 after terms
    match rest with
    | [] | .either _ :: _ | .closing :: _ => return (left, rest)
    | .both word :: rest =>
      let (right, rest) ← joinTerms fuel 1 word rest
      return (.both left right, rest)
    | rest =>
      let (right, rest) ← joinTerms fuel 1 after rest
      return (.both left right, rest)
  | fuel + 1, _, after, terms =>
    match terms with
    | [] => .error s!"expected an expression after '{after}'"
    | .criterion criterion :: rest => .ok (criterion, rest)
    | .negation word :: rest => do
      let (inner, rest) ← joinTerms fuel 2 word rest
      return (.negation inner, rest)
    | .opening :: .closing :: _ =>
      .error "invalid expression; empty parentheses are not allowed."
    | .opening :: rest => do
      match ← joinTerms fuel 0 "(" rest with
      | (inner, .closing :: rest) => return (inner, rest)
      | _ =>
        .error ("invalid expression; I was expecting to find a ')' somewhere but did not see " ++
          "one.")
    | .closing :: _ => .error "invalid expression; you have too many ')'"
    | .both word :: _ | .either word :: _ =>
      .error (s!"invalid expression; you have used a binary operator '{word}' with nothing " ++
        "before it.")

/-! ## Visiting entries -/

/-- An entry that is visited, with the path that it was found below and how deep it lies. -/
structure Visit where
  item : Item
  start : String
  depth : Nat

/-- What has come of a search so far: what is gathered for commands, the status, whether the search
is over, and whether the present directory is left alone. -/
structure Outcome where
  gathered : List (List String × List String) := []
  status : Nat := 0
  isOver : Bool := false
  isPruned : Bool := false

/-- A step of a search. -/
abbrev Searching := StateT Outcome Program

/-- Runs a command and tells whether it succeeds. -/
def succeeds (call : Call) (command : List String) : Program Bool := do
  match command with
  | [] => return false
  | name :: arguments =>
    match ← findImage name arguments call.environment call.environment with
    | .error errno =>
      call.complain s!"{quoted name}: {errno.words}"
      return false
    | .ok image =>
      let child ← Program.fork (becomeImage call image)
      match ← Program.awaitEnd child with
      | .exited 0 => return true
      | _ => return false

/-- A text in which each pair of braces is a path. -/
def withPath (path : String) : List Char → List Char
  | '\x7b' :: '\x7d' :: rest => path.toList ++ withPath path rest
  | c :: rest => c :: withPath path rest
  | [] => []

/-- The text of a visit in a format. -/
def Visit.shown (visit : Visit) : List Char → String
  | '%' :: letter :: rest =>
    let path := visit.item.name
    let text := match letter with
      | 'p' => path
      | 'f' => lastName path
      | 'h' => if path.toList.contains '/' then parentPath path else "."
      | 'P' => String.ofList
          ((path.toList.drop visit.start.length).dropWhile (· == '/'))
      | 's' => toString visit.item.size
      | 'd' => toString visit.depth
      | 'm' => String.ofList (Nat.toDigits 8 visit.item.mode)
      | 'y' => if visit.item.kindLetter == "-" then "f" else visit.item.kindLetter
      | '%' => "%"
      | other => String.ofList ['%', other]
    text ++ visit.shown rest
  | '\\' :: letter :: rest =>
    let text := match letter with
      | 'n' => "\n"
      | 't' => "\t"
      | '0' => "\x00"
      | '\\' => "\\"
      | other => String.ofList ['\\', other]
    text ++ visit.shown rest
  | c :: rest => String.singleton c ++ visit.shown rest
  | [] => ""

/-- Removes an entry. -/
def Visit.remove (visit : Visit) (call : Call) : Searching Bool := do
  let path := visit.item.name
  if path == "." then return true
  else if visit.item.isDirectory && !(← namesAt visit.item.location).isEmpty then
    call.complain s!"cannot delete {quoted path}: {Errno.notEmpty.words}"
    modify ({ · with status := 1 })
    return false
  else
    removeEntry visit.item.location
    return true

/-- Judges an expression about an entry. -/
def judge (call : Call) (visit : Visit) : Criterion → Searching Bool
  | .constant truth => return truth
  | .named whole foldsCase pattern => do
    let folded (chars : List Char) : List Char := if foldsCase then chars.map (·.toLower) else chars
    let text := if whole then visit.item.name else lastName visit.item.name
    let pattern := if foldsCase then pattern.map fun item => ⟨item.char.toLower, item.free⟩
      else pattern
    return matchesPattern pattern (folded text.toList)
  | .kind letters => do
    let letter := if visit.item.kindLetter == "-" then "f" else visit.item.kindLetter
    return letters.any fun c => String.singleton c == letter
  | .empty => do
    if visit.item.isDirectory then return (← namesAt visit.item.location).isEmpty
    else return visit.item.kindLetter == "-" && visit.item.size = 0
  | .sized unit bound => return bound.admits ((visit.item.size + unit - 1) / unit)
  | .newer stamp => return stamp < visit.item.stamp
  | .aged unit bound => do
    let present ← presentTime
    let age := (present - (Calendar.clockStart : Int) * 1000000 - visit.item.stamp) / 1000000
    return bound.admits (age / unit).toNat
  | .permits holds => return holds visit.item.mode
  | .print ending => do
    call.print (visit.item.name ++ ending)
    return true
  | .format text => do
    call.print (visit.shown text)
    return true
  | .remove => visit.remove call
  | .run command =>
    succeeds call (command.map fun word => String.ofList (withPath visit.item.name word.toList))
  | .gather command => do
    modify fun outcome =>
      let gathered := if outcome.gathered.any (·.1 == command) then
          outcome.gathered.map fun (other, paths) =>
            (other, if other == command then visit.item.name :: paths else paths)
        else outcome.gathered ++ [(command, [visit.item.name])]
      { outcome with gathered := gathered }
    return true
  | .prune => do
    modify ({ · with isPruned := true })
    return true
  | .quit => do
    modify ({ · with isOver := true })
    return true
  | .negation inner => do return !(← judge call visit inner)
  | .both left right => do
    let truth ← judge call visit left
    let isOver := (← get).isOver
    if truth && !isOver then judge call visit right else return false
  | .either left right => do
    let truth ← judge call visit left
    let isOver := (← get).isOver
    if truth || isOver then return truth else judge call visit right

/-- Visits an entry and all that is below it. -/
def search (call : Call) (plan : Plan) (criterion : Criterion) (start : String) :
    Nat → Nat → String → Location → Searching Nat
  | 0, _, _, _ => return 0
  | fuel + 1, depth, path, location => do
    let outcome ← get
    match outcome.isOver, ← itemAt path location with
    | true, _ | _, none => return 0
    | false, some item =>
      let judged : Searching Unit := do
        modify ({ · with isPruned := false })
        if plan.minDepth ≤ depth then
          let _ ← judge call ⟨item, start, depth⟩ criterion
      if !plan.contentsFirst then judged
      let outcome ← get
      let isPruned := outcome.isPruned && !plan.contentsFirst
      if item.isDirectory && !isPruned && plan.maxDepth?.all (depth < ·) then
        let _ ← forEach (fun name =>
          search call plan criterion start fuel (depth + 1) (within path name)
            (location ++ [ByteText.toText name])) (← namesAt location) 0
      let outcome ← get
      if plan.contentsFirst && !outcome.isOver then judged
      return 0

/-- Searches directories. -/
def find : Tool := fun call => do
  let words := call.arguments.dropWhile fun word => ["-H", "-L", "-P", "--"].contains word
  let paths := words.takeWhile fun word => !isExpressionWord true word
  let rest := words.drop paths.length
  let plan ← readPlan call (rest.length + 1) "" rest {}
  let terms := if plan.terms.isEmpty then [.criterion (.constant true)] else plan.terms
  match joinTerms (4 * terms.length + 4) 0 "" terms with
  | .error message => refuseSearch call message
  | .ok (_, _ :: _) => refuseSearch call "invalid expression; you have too many ')'"
  | .ok (criterion, []) =>
    let criterion := if plan.acts then criterion else .both criterion (.print "\n")
    let visitAll : Searching Nat := forEach (fun path => do
      match ← (placeOf path : Program _) with
      | .ok (.present location _) => search call plan criterion path 1000 0 path location
      | found =>
        call.complain s!"{quoted path}: {(missing found).words}"
        return 1) (if paths.isEmpty then ["."] else paths) 0
    let (status, outcome) ← visitAll.run {}
    let ran ← outcome.gathered.mapM fun (command, found) =>
      succeeds call (command ++ found.reverse)
    return if ran.all id then max status outcome.status else 1

end EventHooks.Utility
