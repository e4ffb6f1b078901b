import EventHooks.Shell.Builtin
import EventHooks.Shell.Tilde

/-!
# Running shell commands

Commands run in a session. Those of a pipeline, in parentheses, in the background and in
substitutions run as processes of their own, side by side with the shell, and so do programs. How
deep commands nest and how often loops turn is bounded.
-/
namespace EventHooks.Shell

/-! ## How words and commands are taken -/

/-- How a word is expanded: whether it becomes fields, and whether it is the word of a form, whose
plain text may become several. -/
structure Expansion where
  splits : Bool
  inForm : Bool := false

/-- How a command is run: whether a failure is looked at, so that it does not end the shell, and
whether nothing follows, so that a program may take the place of the shell. -/
structure Mode where
  tested : Bool := false
  last : Bool := false

/-- The mode of a command that others follow. -/
def Mode.inner (mode : Mode) : Mode :=
  { mode with last := false }

/-- The mode of a command in a process of its own. -/
def Mode.apart (mode : Mode) : Mode :=
  { mode with last := true }

/-- Whether a session has something to do for a signal or at its end. -/
def Session.hasTraps (session : Session) : Bool :=
  session.traps.any (!·.2.isEmpty)

/-- The words of a command without the ones that keep functions away, whether the search path is to
be the default one, and whether there were such words. -/
def plainFields (isFunction : String → Bool) :
    Nat → List String → List String × Bool × Bool
  | 0, fields => (fields, false, false)
  | fuel + 1, "command" :: rest =>
    if isFunction "command" then ("command" :: rest, false, false)
    else
      let isPath (word : String) : Bool :=
        match word.toList with
        | '-' :: letters => !letters.isEmpty && letters.all (· == 'p')
        | _ => false
      let options := rest.takeWhile isPath
      let others := rest.drop options.length
      let others := if others.head? == some "--" then others.drop 1 else others
      let isOption := match others with
        | word :: _ => word.toList.head? == some '-' && word != "-" && rest.head? != some "--"
        | [] => true
      if isOption then ("command" :: rest, false, false)
      else
        let (fields, usesDefault, _) := plainFields (fun _ => false) fuel others
        (fields, usesDefault || !options.isEmpty, true)
  | _, fields => (fields, false, false)

/-- Whether the arguments of a command may be assignments. -/
def Session.declares (session : Session) (fields : List String) : Bool :=
  let isFunction (name : String) : Bool := session.functions.any (·.1 == name)
  match plainFields isFunction (fields.length + 1) fields with
  | (name :: _, _, _) =>
    declaringBuiltins.contains name && (specialBuiltins.contains name || !isFunction name)
  | ([], _, _) => false

/-! ## Programs -/

/-- Whether a file without an interpreter may be a script: its first line has no control
characters but blanks and a few others. -/
def mayBeScript (content : Bytes) : Bool :=
  ((content.take 128).takeWhile (· != 10)).all fun byte =>
    (9 ≤ byte && byte ≤ 15) || byte == 27 || (32 ≤ byte && byte != 127)

/-- What the path of a command becomes. A file that is not in the format of a program is a script of
the shell, unless it cannot be one. -/
def commandImage (files : FileStore) (path name : String) (arguments : List String)
    (environment : Environment) : Except Errno Image :=
  let result := match files.image (ByteText.toText path) name arguments environment with
    | .error .execFormat =>
      let isScript := match files.readFile (ByteText.toText path) with
        | .ok content => mayBeScript content
        | .error _ => false
      if isScript then files.image "/bin/sh" "/bin/sh" (path :: arguments) environment
      else .error .execFormat
    | result => result
  match result with
  | .ok image => if image.fits then .ok image else .error .argumentsTooLong
  | .error errno => .error errno

/-- What a command becomes at the first of some paths at which something can be executed. Of the
errors the last one counts that tells of more than a missing file. -/
def firstImage (files : FileStore) (name : String) (arguments : List String)
    (environment : Environment) : Errno → List String → Except Errno Image
  | errno, [] => .error errno
  | errno, path :: rest =>
    match commandImage files path name arguments environment with
    | .ok image => .ok image
    | .error found =>
      let isMissing := found = .noEntry ∨ found = .notDirectory
      firstImage files name arguments environment (if isMissing then errno else found) rest

/-- What a command becomes. A name with a slash is a path, and other names are looked for on a
search path, from a path on if one is given. -/
def imageOf (files : FileStore) (path name : String) (start? : Option String)
    (arguments : List String) (environment : Environment) : Except Errno Image :=
  if name.toList.contains '/' then commandImage files name name arguments environment
  else
    let paths := candidatePaths path name
    let paths := match start? with
      | some start => paths.dropWhile (· != start)
      | none => paths
    firstImage files name arguments environment .noEntry paths

/-- The status of a command that could not be executed. -/
def failureStatus (errno : Errno) : Nat :=
  if [Errno.noEntry, .notDirectory, .tooManyLinks, .nameTooLong].contains errno then 127 else 126

/-- The words for a command that was not found or could not be executed. -/
def Session.commandWords (session : Session) (name : String) (errno : Errno) : String :=
  match session.dialect with
  | .plain => s!"{name}: {commandErrorWords errno}"
  | .extended =>
    if (errno = .noEntry ∨ errno = .notDirectory) ∧ !name.toList.contains '/' then
      s!"{name}: command not found"
    else s!"{name}: {errno.words}"

/-- A pattern as a dialect takes it: in the plain one a caret means nothing. -/
def Dialect.settle (dialect : Dialect) (pattern : List PatternChar) : List PatternChar :=
  match dialect with
  | .plain => pattern.map fun item => { item with free := item.free && item.char != '^' }
  | .extended => pattern

/-- Runs a builtin command whose name complaints begin with. -/
def asCommand (name : String) (body : Run Nat) : Run Nat := do
  let before := (← get).command
  let restore : Run Unit := modify fun session => { session with command := before }
  modify fun session => { session with command := some name }
  let status ← tryCatch body fun stop => do
    restore
    throw stop
  restore
  return status

/-- Runs a builtin command whose failure does not end the shell. -/
def sparing (body : Run Nat) : Run Nat :=
  tryCatch body fun stop =>
    match stop with
    | .failure status => return status
    | stop => throw stop

/-- Takes the signals that wait, in order of their numbers. -/
def takePending : Run (List Nat) :=
  perform (Program.act fun process world =>
    match world.record? process with
    | some { pending := signal :: others, .. } =>
      ((signal :: others).mergeSort,
        world.modifyRecord process fun record => { record with pending := [] })
    | _ => ([], world))

/-- Makes a process one in the background: it ignores what the keyboard sends, and the first one of
its job reads nothing. -/
def goBackground (isFirst : Bool) : Run Unit := do
  let ignored := [Signal.interrupt, Signal.quit]
  modify fun session => { session with unchangeable := session.unchangeable ++ ignored }
  announceTraps
  if isFirst then direct (.path 0 "/dev/null" Opening.input)

/-- What a part of a loop comes to: it ends with a status, goes on with the next turn, or leaves the
loop. -/
inductive LoopStep
  | done (status : Nat)
  | next
  | left

/-- Runs a part of a loop. -/
def inLoop (body : Run Nat) : Run LoopStep := do
  let loops := (← get).loops
  let restore : Run Unit := modify fun session => { session with loops := loops }
  modify fun session => { session with loops := loops + 1 }
  tryCatch (do
    let status ← body
    restore
    return .done status) fun stop => do
    restore
    match stop with
    | .leave levels => if 1 < levels then throw (.leave (levels - 1)) else return .left
    | .next levels => if 1 < levels then throw (.next (levels - 1)) else return .next
    | stop => throw stop

/-- Runs the body of a function with its arguments. -/
def inFunction (arguments : List String) (body : Run Nat) : Run Nat := do
  let outer ← get
  let restore : Run Unit := modify fun session =>
    { session.uncover with
      arguments := outer.arguments
      hidden := outer.hidden
      loops := outer.loops
      depth := outer.depth
      flags := session.hiddenFlags.getD session.flags
      hiddenFlags := outer.hiddenFlags
      optionOffset := outer.optionOffset }
  modify fun session =>
    { session with
      arguments := arguments
      hidden := []
      loops := 0
      depth := outer.depth + 1
      hiddenFlags := none
      optionOffset := 0 }
  let status ← tryCatch body fun stop => do
    match stop with
    | .returned status => return status
    | stop =>
      restore
      throw stop
  restore
  return status

/-- Brings back variables as they were. -/
def bringBack (kept : List (String × Option ShellVariable)) : Run Unit :=
  modify (·.bringBack kept)

/-- Looks for the program that a stage of a pipeline calls by a plain name, so that it is
remembered. -/
def prepareStage (command : Command) : Run Unit := do
  match command with
  | .simple _ _ ([.literal name] :: _) _ =>
    let isFunction := (← get).functions.any (·.1 == name)
    if isName name.toList && !isBuiltin name && !isFunction then
      let _ ← findProgram name none
  | _ => return ()

/-! ## Evaluation -/

section

variable (exec : Image → Program ProcessEnd)

mutual

/-- Expands the parts of a word to atoms. -/
def expandParts (fuel : Nat) (expansion : Expansion) (parts : List Part) : Run (List Atom) :=
  match fuel with
  | 0 => return []
  | fuel + 1 =>
    match parts with
    | [] => return []
    | part :: rest => do
      let atoms ← expandPart fuel expansion part
      if rest.isEmpty then return atoms
      else
        let more ← expandParts fuel expansion rest
        return atoms ++ more

/-- Expands a part of a word. -/
def expandPart (fuel : Nat) (expansion : Expansion) (part : Part) : Run (List Atom) :=
  match fuel with
  | 0 => return []
  | fuel + 1 => do
    let mark (isQuoted : Bool) (text : String) : List Atom :=
      if isQuoted then .present :: atomsOf text false false else atomsOf text true true
    match part with
    | .literal text => return atomsOf text true expansion.inForm
    | .quoted text => return .present :: atomsOf text false false
    | .substitution body isQuoted =>
      match body with
      | none => return mark isQuoted ""
      | some command => return mark isQuoted (← substitute fuel command)
    | .arithmetic expression isQuoted =>
      let atoms ← expandParts fuel { splits := false } expression
      let session ← get
      match Arithmetic.evaluate session.value? (plainOf atoms) with
      | .ok (value, assigned) =>
        for (name, value) in assigned.reverse do
          assign name (toString value)
        return mark isQuoted (toString value)
      | .error fault => abort (fault.message (plainOf atoms))
    | .parameter name form isQuoted =>
      if name.isEmpty then abort "Bad substitution"
      let session ← get
      let isList := name == "@" || name == "*"
      let value? := if isList then
          let separator := session.separator name isQuoted expansion.splits
          some (separator.intercalate session.arguments)
        else session.parameter? name
      let present (value : String) : List Atom :=
        [Atom.boundary].intercalate ((Path.splitOn '\x00' value.toList).map fun piece =>
          mark isQuoted (String.ofList piece))
      let missing : Run (List Atom) :=
        if session.has 'u' then abort s!"{name}: parameter not set" else return mark isQuoted ""
      let isUnset (colon : Bool) : Bool :=
        match value? with
        | none => true
        | some value => colon && value.isEmpty
      match form with
      | .value =>
        match value? with
        | some value =>
          let isNothing := name == "@" && expansion.splits && session.arguments.isEmpty
          return if isNothing then [] else present value
        | none => missing
      | .length =>
        match session.parameter? name with
        | some value => return mark isQuoted (toString value.length)
        | none => if session.has 'u' then missing else return mark isQuoted "0"
      | .default colon word =>
        if isUnset colon then expandForm fuel expansion isQuoted word
        else return present (value?.getD "")
      | .alternative colon word =>
        if isUnset colon then return mark isQuoted ""
        else expandForm fuel expansion isQuoted word
      | .assign colon word =>
        if isUnset colon then
          let atoms ← expandForm fuel { splits := false } isQuoted word
          if !isName name.toList then abort s!"{name}: bad variable name"
          assign name (plainOf atoms)
          return mark isQuoted (plainOf atoms)
        else return present (value?.getD "")
      | .demand colon word =>
        if isUnset colon then
          let atoms ← expandForm fuel { splits := false } isQuoted word
          let words := plainOf atoms
          let words := if words.isEmpty then
              if colon then "parameter not set or null" else "parameter not set"
            else words
          abort s!"{name}: {words}"
        else return present (value?.getD "")
      | .trimStart longest pattern =>
        match value? with
        | none => missing
        | some value =>
          let atoms ← expandParts fuel { splits := false } pattern
          return present (String.ofList
            (trimStart longest ((← get).dialect.settle (patternOf atoms)) value.toList))
      | .trimEnd longest pattern =>
        match value? with
        | none => missing
        | some value =>
          let atoms ← expandParts fuel { splits := false } pattern
          return present (String.ofList
            (trimEnd longest ((← get).dialect.settle (patternOf atoms)) value.toList))

/-- Expands the word of a form. -/
def expandForm (fuel : Nat) (expansion : Expansion) (isQuoted : Bool) (word : Word) :
    Run (List Atom) :=
  match fuel with
  | 0 => return []
  | fuel + 1 => do
    let word ← if isQuoted then pure word else withHomes fuel false word
    let atoms ← expandParts fuel { expansion with inForm := true } word
    return if isQuoted then .present :: atoms else atoms

/-- A word in which tildes stand for home directories. -/
def withHomes (fuel : Nat) (isValue : Bool) (word : Word) : Run Word :=
  match fuel with
  | 0 => return word
  | _ + 1 =>
    if word.hasTilde isValue then do
      let session ← get
      let files ← seenFiles
      let home? (name : List Char) : Option String :=
        if name.isEmpty then session.value? "HOME" else userHome? files name
      return expandTildes isValue home? true word
    else return word

/-- Expands a word to one text. In the value of a variable tildes may follow colons. -/
def expandText (fuel : Nat) (isValue : Bool) (word : Word) : Run String :=
  match fuel with
  | 0 => return ""
  | fuel + 1 => do
    let word ← withHomes fuel isValue word
    let atoms ← expandParts fuel { splits := false } word
    return plainOf atoms

/-- Expands a word to fields. -/
def expandFields (fuel : Nat) (word : Word) : Run (List String) :=
  match fuel with
  | 0 => return []
  | fuel + 1 => do
    let word ← withHomes fuel false word
    let atoms ← expandParts fuel { splits := true } word
    let session ← get
    let fields := fieldsOf session.separators atoms
    if session.has 'f' || !fields.any hasWildcard then return fields.map textOf
    else
      let files ← seenFiles
      return fields.flatMap fun field => pathsOf files (session.dialect.settle field)

/-- Expands the words of a command after the fields that there are. Arguments of some builtin
commands may be assignments, which stay whole. -/
def expandArguments (fuel : Nat) (isCommand : Bool) (fields : List String) (words : List Word) :
    Run (List String) :=
  match fuel with
  | 0 => return fields
  | fuel + 1 =>
    match words with
    | [] => return fields
    | word :: rest => do
      let session ← get
      let assigned? := if isCommand && session.declares fields then assignment? word else none
      let more ← match assigned? with
        | some (name, value) => do
          let text ← expandText fuel true value
          pure [s!"{name}={text}"]
        | none => expandFields fuel word
      expandArguments fuel isCommand (fields ++ more) rest

/-- Expands redirections. -/
def expandRedirections (fuel : Nat) (redirections : List Redirection) : Run (List Direction) :=
  match fuel with
  | 0 => return []
  | fuel + 1 =>
    match redirections with
    | [] => return []
    | redirection :: rest => do
      let direction ← match redirection with
        | .input descriptor path => do
          pure (.path descriptor (← expandText fuel false path) Opening.input)
        | .output descriptor path isForced => do
          let text ← expandText fuel false path
          let isCareful := (← get).has 'C' && !isForced
          let opening := if isCareful then { Opening.output with empties := false, onlyNew := true }
            else Opening.output
          pure (.path descriptor text opening)
        | .append descriptor path => do
          pure (.path descriptor (← expandText fuel false path) Opening.append)
        | .readWrite descriptor path => do
          pure (.path descriptor (← expandText fuel false path) Opening.update)
        | .document descriptor content => do
          pure (.document descriptor (← expandText fuel false content))
        | .duplicate descriptor source => do
          match (← expandText fuel false source).toList with
          | ['-'] => pure (.closed descriptor)
          | [digit] =>
            if digit.isDigit then pure (.copy descriptor (digit.toNat - '0'.toNat))
            else abort "Syntax error: Bad fd number"
          | _ => abort "Syntax error: Bad fd number"
      let more ← expandRedirections fuel rest
      return direction :: more

/-- What a command writes, without the line feeds at its end. It runs in a process of its own. -/
def substitute (fuel : Nat) (command : Command) : Run String :=
  match fuel with
  | 0 => return ""
  | fuel + 1 => do
    let reader := innerDescriptor
    let writer := innerDescriptor + 1
    openInnerPipe reader writer
    let child ← forkSession do
      duplicate 1 writer
      closeInner
      ended fuel (execute fuel { last := true } command)
    perform (Program.detach writer)
    let written ← perform (Program.readAll reader)
    perform (Program.detach reader)
    let status ← awaitForeground [child]
    modify fun session => { session with substitutionStatus := status }
    let bytes := match written with
      | .ok bytes => bytes.filter (· != 0)
      | .error _ => []
    return ByteText.ofBytes ((bytes.reverse.dropWhile (· == 10)).reverse)

/-- Runs what is to be done for signals that have come. -/
def runTraps (fuel : Nat) : Run Unit :=
  match fuel with
  | 0 => return ()
  | fuel + 1 => do
    for signal in ← takePending do
      let session ← get
      match session.traps.find? (·.1 == signal) with
      | none => pure ()
      | some (_, action) =>
        let outer := session.outerStatus
        modify fun session =>
          { session with outerStatus := session.outerStatus.or (some session.status) }
        let _ ← runLines fuel {} { rest := action.toList } 0
        modify fun after => { after with status := session.status, outerStatus := outer }

/-- Runs a command. The result is its status, which is also kept. -/
def execute (fuel : Nat) (mode : Mode) (command : Command) : Run Nat :=
  match fuel with
  | 0 => throw (.exit 2)
  | fuel + 1 => do
    if (← get).has 'n' then return 0
    let finish (status : Nat) : Run Nat := do
      setStatus status
      runTraps fuel
      return (← get).status
    let checked (status : Nat) : Run Nat := do
      setStatus status
      if status != 0 && !mode.tested && (← get).has 'e' then throw (.exit status)
      runTraps fuel
      return (← get).status
    let goTo (line : Nat) : Run Unit :=
      modify fun session => { session with line := line }
    match command with
    | .simple line assignments words redirections =>
      runTraps fuel
      goTo line
      checked (← simple fuel mode assignments words redirections)
    | .redirected line (.subshell _ body) redirections =>
      goTo line
      let directions ← expandRedirections fuel redirections
      checked (← subshell fuel mode directions body)
    | .subshell line body =>
      goTo line
      checked (← subshell fuel mode [] body)
    | .redirected line body redirections =>
      goTo line
      let directions ← expandRedirections fuel redirections
      finish (← directed directions false (execute fuel mode.inner body))
    | .background body =>
      let processes ← startBackground fuel body
      addJob processes
      finish 0
    | .pipeline commands =>
      let processes ← startPipeline fuel mode false commands
      checked (← awaitForeground processes)
    | .negation body =>
      let status ← execute fuel { tested := true } body
      finish (if status = 0 then 1 else 0)
    | .both first second =>
      let status ← execute fuel { tested := true } first
      if status = 0 then execute fuel mode second else finish status
    | .either first second =>
      let status ← execute fuel { tested := true } first
      if status = 0 then finish status else execute fuel mode second
    | .sequence first second =>
      let _ ← execute fuel mode.inner first
      execute fuel mode second
    | .conditional test yes no =>
      let status ← execute fuel { tested := true } test
      if status = 0 then execute fuel mode yes
      else
        match no with
        | some no => execute fuel mode no
        | none => finish 0
    | .loop endsOn test body =>
      finish (← turn fuel mode.inner endsOn test body 0)
    | .iteration line name words body =>
      goTo line
      let items ← match words with
        | some words => expandArguments fuel false [] words
        | none => pure (← get).arguments
      finish (← iterate fuel mode.inner name items body 0)
    | .selection line subject branches =>
      goTo line
      let text ← expandText fuel false subject
      finish (← select fuel mode text branches)
    | .definition name body =>
      modify fun session =>
        { session with
          functions := (name, body) :: session.functions.filter (·.1 != name) }
      modify (·.forgetProgram name)
      finish 0

/-- Runs a command in parentheses, with some descriptors directed elsewhere. -/
def subshell (fuel : Nat) (mode : Mode) (directions : List Direction) (body : Command) : Run Nat :=
  match fuel with
  | 0 => throw (.exit 2)
  | fuel + 1 => do
    let inside : Run Nat := ended fuel do
      directions.forM direct
      execute fuel mode.apart body
    if mode.last && !(← get).hasTraps then
      modify Session.copy
      announceTraps
      throw (.exit (← inside))
    else awaitForeground [← forkSession inside]

/-- Starts a command in the background. -/
def startBackground (fuel : Nat) (command : Command) : Run (List ProcessId) :=
  match fuel with
  | 0 => throw (.exit 2)
  | fuel + 1 => do
    match command with
    | .pipeline commands => startPipeline fuel {} true commands
    | .redirected line body redirections =>
      modify fun session => { session with line := line }
      let directions ← expandRedirections fuel redirections
      let body := match body with
        | .subshell _ body => body
        | body => body
      return [← forkSession (do
        goBackground true
        ended fuel do
          directions.forM direct
          execute fuel { last := true } body)]
    | command =>
      let body := match command with
        | .subshell _ body => body
        | body => body
      return [← forkSession (do
        goBackground true
        ended fuel (execute fuel { last := true } body))]

/-- Starts the commands of a pipeline. -/
def startPipeline (fuel : Nat) (mode : Mode) (isBackground : Bool) (commands : List Command) :
    Run (List ProcessId) :=
  match fuel with
  | 0 => throw (.exit 2)
  | fuel + 1 => do
    for place in List.range (commands.length - 1) do
      openInnerPipe (innerDescriptor + 2 * place) (innerDescriptor + 2 * place + 1)
    let processes ← startStages fuel mode isBackground 0 commands
    closeInner
    return processes

/-- Starts the commands of a pipeline from a place on, between the pipes of that place. -/
def startStages (fuel : Nat) (mode : Mode) (isBackground : Bool) (place : Nat)
    (commands : List Command) : Run (List ProcessId) :=
  match fuel with
  | 0 => throw (.exit 2)
  | fuel + 1 =>
    match commands with
    | [] => return []
    | command :: rest => do
      prepareStage command
      let child ← forkSession do
        if isBackground then goBackground (place = 0)
        if 0 < place then duplicate 0 (innerDescriptor + 2 * (place - 1))
        if !rest.isEmpty then duplicate 1 (innerDescriptor + 2 * place + 1)
        closeInner
        ended fuel (execute fuel mode.apart command)
      let others ← startStages fuel mode isBackground (place + 1) rest
      return child :: others

/-- Turns a loop until its test ends it. -/
def turn (fuel : Nat) (mode : Mode) (endsOn : Bool) (test body : Command) (last : Nat) : Run Nat :=
  match fuel with
  | 0 => throw (.exit 2)
  | fuel + 1 => do
    match ← inLoop (execute fuel { tested := true } test) with
    | .left => return last
    | .next => turn fuel mode endsOn test body last
    | .done status =>
      if (status == 0) == endsOn then return last
      else
        match ← inLoop (execute fuel mode body) with
        | .left => return 0
        | .next => turn fuel mode endsOn test body 0
        | .done status => turn fuel mode endsOn test body status

/-- Runs a command for each item. -/
def iterate (fuel : Nat) (mode : Mode) (name : String) (items : List String) (body : Command)
    (last : Nat) : Run Nat :=
  match fuel with
  | 0 => throw (.exit 2)
  | fuel + 1 =>
    match items with
    | [] => return last
    | item :: rest => do
      assign name item
      match ← inLoop (execute fuel mode body) with
      | .left => return 0
      | .next => iterate fuel mode name rest body 0
      | .done status => iterate fuel mode name rest body status

/-- Runs the first branch with a pattern that matches a text. -/
def select (fuel : Nat) (mode : Mode) (text : String)
    (branches : List (List Word × Option Command)) : Run Nat :=
  match fuel with
  | 0 => return 0
  | fuel + 1 =>
    match branches with
    | [] => return 0
    | (patterns, body) :: rest => do
      if ← anyMatches fuel text patterns then
        match body with
        | some body => execute fuel mode body
        | none => return 0
      else select fuel mode text rest

/-- Whether a text matches one of some patterns. -/
def anyMatches (fuel : Nat) (text : String) (patterns : List Word) : Run Bool :=
  match fuel with
  | 0 => return false
  | fuel + 1 =>
    match patterns with
    | [] => return false
    | pattern :: rest => do
      let pattern ← withHomes fuel false pattern
      let atoms ← expandParts fuel { splits := false } pattern
      if matchesPattern ((← get).dialect.settle (patternOf atoms)) text.toList then return true
      else anyMatches fuel text rest

/-- Runs commands to the end of their process, with what is to be done at that. -/
def ended (fuel : Nat) (body : Run Nat) : Run Nat :=
  match fuel with
  | 0 => throw (.exit 2)
  | fuel + 1 => do
    let status ← tryCatch body fun stop => return (← get).statusAt stop
    let session ← get
    match session.traps.find? (·.1 == 0) with
    | none => return status
    | some (_, action) =>
      modify fun session =>
        { session with
          traps := session.traps.filter (·.1 != 0)
          status := status
          outerStatus := some status }
      tryCatch (do
        let _ ← runLines fuel {} { rest := action.toList } 0
        return status) fun stop =>
        match stop with
        | .exit status | .failure status => return status
        | _ => return status

/-- Writes a command before it is run, with what it assigns. -/
def trace (fuel : Nat) (errors? : Option Nat) (assignments : List (String × Word))
    (fields : List String) : Run Unit :=
  match fuel with
  | 0 => return ()
  | fuel + 1 => do
    match errors? with
    | none => return ()
    | some handle =>
      let session ← get
      let assigned := assignments.map fun (name, _) =>
        name ++ "=" ++ (session.value? name).getD ""
      modify fun session => session.switch false 'x'
      let lead ← expandText fuel false (quotedWord ((session.value? "PS4").getD ""))
      modify fun after => { after with flags := session.flags }
      let line := lead ++ " ".intercalate (assigned ++ fields) ++ "\n"
      let _ ← perform (Program.writeTo handle Program.patience (ByteText.toBytes line))

/-- Runs a simple command. -/
def simple (fuel : Nat) (mode : Mode) (assignments : List (String × Word)) (words : List Word)
    (redirections : List Redirection) : Run Nat :=
  match fuel with
  | 0 => throw (.exit 2)
  | fuel + 1 => do
    modify fun session => { session with substitutionStatus := 0 }
    let fields ← expandArguments fuel true [] words
    let session ← get
    let errors? ← if session.has 'x' then perform (Program.handle? 2) else pure none
    let directions ← expandRedirections fuel redirections
    let session ← get
    let isFunction (name : String) : Bool := session.functions.any (·.1 == name)
    let (plain, usesDefault, isForced) := plainFields isFunction (fields.length + 1) fields
    match plain with
    | [] =>
      directed directions false do
        assignAll fuel false assignments
        trace fuel errors? assignments []
        return (← get).substitutionStatus
    | name :: arguments =>
      let body? := if isForced then none
        else (session.functions.find? (·.1 == name)).map (·.2)
      if specialBuiltins.contains name && !isForced then
        let body : Run Nat := do
          assignAll fuel false assignments
          trace fuel errors? assignments fields
          asCommand name (builtin fuel mode name arguments)
        if name == "exec" then do
          directions.forM direct
          body
        else directed directions true body
      else
        directed directions false do
          withAssignments fuel assignments do
            trace fuel errors? assignments fields
            match body? with
            | some body => inFunction arguments (execute fuel mode.inner body)
            | none =>
              if isBuiltin name then
                sparing (asCommand name (builtin fuel mode name arguments))
              else program fuel mode name arguments usesDefault

/-- Sets variables. Those of a single command are exported. -/
def assignAll (fuel : Nat) (isExported : Bool) (assignments : List (String × Word)) : Run Unit :=
  match fuel with
  | 0 => return ()
  | fuel + 1 =>
    match assignments with
    | [] => return ()
    | (name, word) :: rest => do
      let value ← expandText fuel true word
      assign name value
      if isExported then
        modify fun session =>
          match session.lookup? name with
          | some item => session.putVariable { item with exported := true }
          | none => session
      assignAll fuel isExported rest

/-- Runs a command with some variables set for it. -/
def withAssignments (fuel : Nat) (assignments : List (String × Word)) (body : Run Nat) : Run Nat :=
  match fuel with
  | 0 => throw (.exit 2)
  | fuel + 1 => do
    if assignments.isEmpty then body
    else
      let session ← get
      let kept := (assignments.map (·.1)).eraseDups.map fun name => (name, session.lookup? name)
      let status ← tryCatch (do
        assignAll fuel true assignments
        body) fun stop => do
          bringBack kept
          throw stop
      bringBack kept
      return status

/-- Runs a builtin command. -/
def builtin (fuel : Nat) (mode : Mode) (name : String) (arguments : List String) : Run Nat :=
  match fuel with
  | 0 => throw (.exit 2)
  | fuel + 1 =>
    match name with
    | "eval" =>
      runLines fuel { tested := mode.tested } { rest := (" ".intercalate arguments).toList } 0
    | "." => do
      let (_, arguments) ← optionsOf "" arguments
      match arguments with
      | [] => return 0
      | path :: _ => source fuel path
    | "command" => do
      let (options, arguments) ← optionsOf "pvV" arguments
      let letters := options.map (·.1)
      match arguments with
      | [] => return 0
      | name :: _ =>
        if letters.contains 'v' || letters.contains 'V' then
          whichCommand (letters.contains 'V') (letters.contains 'p') name
        else return 0
    | "exec" =>
      match arguments with
      | [] => return 0
      | name :: arguments => replace fuel name arguments
    | name => plainBuiltin name arguments

/-- Runs the commands in a file. -/
def source (fuel : Nat) (path : String) : Run Nat :=
  match fuel with
  | 0 => throw (.exit 2)
  | fuel + 1 => do
    let session ← get
    let files ← seenFiles
    let found? : Option String :=
      if path.toList.contains '/' then some path
      else
        (candidatePaths session.path path).find? fun path =>
          match files.status (ByteText.toText path) with
          | .ok (.file ..) => true
          | _ => false
    match found? with
    | none => abort s!"{path}: not found"
    | some found =>
      match files.readFile (ByteText.toText found) with
      | .error (.numbered number words ..) =>
        if number = Errno.isDirectory.number then return 0
        else
          let isMissing := number = Errno.noEntry.number ∨ number = Errno.notDirectory.number
          let words := if isMissing then "No such file" else words
          abort s!"cannot open {found}: {words}"
      | .error (.plain words) => abort s!"cannot open {found}: {words}"
      | .ok content =>
        tryCatch (asCommand found
          (runLines fuel {} { rest := (ByteText.ofBytes content).toList } 0)) fun stop =>
          match stop with
          | .returned status => return status
          | stop => throw stop

/-- Runs a program, and waits for it if something follows. -/
def program (fuel : Nat) (mode : Mode) (name : String) (arguments : List String)
    (usesDefault : Bool) : Run Nat :=
  match fuel with
  | 0 => throw (.exit 2)
  | _ + 1 => do
    let session ← get
    let path? := if usesDefault then some defaultPath else none
    match ← findProgram name path? with
    | .error errno =>
      complain (session.commandWords name errno)
      return 127
    | .ok found =>
      let path := path?.getD session.path
      match imageOf (← seenFiles) path name (some found) arguments session.environment with
      | .error errno =>
        complain (session.commandWords name errno)
        return failureStatus errno
      | .ok image =>
        if mode.last && !session.hasTraps then become (exec image)
        else awaitForeground [← forkSession (become (exec image))]

/-- Lets a program take the place of the shell. -/
def replace (fuel : Nat) (name : String) (arguments : List String) : Run Nat :=
  match fuel with
  | 0 => throw (.exit 2)
  | _ + 1 => do
    let session ← get
    match imageOf (← seenFiles) session.path name none arguments session.environment with
    | .ok image => become (exec image)
    | .error errno =>
      complain (session.commandWords name errno)
      throw (.exit (failureStatus errno))

/-- Runs the lines of a text. The result is the status of the last command, if there is one. -/
def runLines (fuel : Nat) (mode : Mode) (source : Source) (status : Nat) : Run Nat :=
  match fuel with
  | 0 => return status
  | fuel + 1 => do
    let aliases := (← get).aliases
    match { source with aliases := aliases }.nextLine with
    | .done => return status
    | .blank rest => runLines fuel mode rest status
    | .commands command rest =>
      let status ← execute fuel mode command
      runLines fuel mode rest status
    | .fault fault line =>
      modify fun session => { session with line := line }
      abort s!"Syntax error: {fault.message}"

end

end

end EventHooks.Shell
