import EventHooks.Shell.Builtin.Basic
import EventHooks.Shell.Reader

/-!
# Builtin commands for variables, options and aliases

Variables are marked, hidden, removed and listed; options are switched and positional arguments set;
aliases are defined and removed.
-/
namespace EventHooks.Shell

/-! ## Variables -/

/-- Sets a variable whose name comes from an argument. -/
def assignNamed (name value : String) : Run Unit := do
  if !isName name.toList then abort s!"{name}: bad variable name"
  assign name value

/-- The variables in order of their names. -/
def Session.sorted (session : Session) : List ShellVariable :=
  session.bindings.mergeSort fun first second => !decide (second.name < first.name)

/-- The lines that set variables again, each after some words. -/
def settingLines (start : String) (items : List ShellVariable) : String :=
  String.join (items.map fun item =>
    match item.value? with
    | some value => s!"{start}{item.name}={singleQuoted value}\n"
    | none => s!"{start}{item.name}\n")

/-- Marks variables, and sets those that come with a value; or lists the marked ones. -/
def declareCommand (verb : String) (isMarked : ShellVariable → Bool)
    (mark : ShellVariable → ShellVariable) (arguments : List String) : Run Nat := do
  let (options, arguments) ← optionsOf "p" arguments
  if arguments.isEmpty || !options.isEmpty then
    output (settingLines (verb ++ " ") ((← get).sorted.filter isMarked))
  else
    for argument in arguments do
      let (name, value?) := splitAssignment argument
      match value? with
      | some value => assignNamed name value
      | none => if !isName name.toList then abort s!"{name}: bad variable name"
      modify fun session =>
        session.putVariable (mark ((session.lookup? name).getD ⟨name, none, false, false⟩))
    return 0

/-- Hides variables behind those of the present function. A dash hides the options. -/
def localCommand (arguments : List String) : Run Nat := do
  if (← get).depth = 0 then abort "not in a function"
  for argument in arguments do
    if argument == "-" then
      modify fun session => { session with hiddenFlags := some session.flags }
    else
      let (name, value?) := splitAssignment argument
      if !isName name.toList then abort s!"{name}: bad variable name"
      modify fun session =>
        let session := { session with hidden := (name, session.lookup? name) :: session.hidden }
        if (session.lookup? name).isSome then session
        else session.putVariable ⟨name, none, false, false⟩
      match value? with
      | some value => assign name value
      | none => pure ()
  return 0

/-- Removes variables or functions. -/
def unsetCommand (arguments : List String) : Run Nat := do
  let (options, names) ← optionsOf "vf" arguments
  let isFunctions := (options.getLast?.map (·.1)) == some 'f'
  for name in names do
    if isFunctions then
      modify fun session =>
        { session with functions := session.functions.filter (·.1 != name) }
    else
      if !isName name.toList then abort s!"{name}: bad variable name"
      if ((← get).lookup? name).any (·.fixed) then abort s!"{name}: is read only"
      modify fun session => session.dropVariable name
  return 0

/-! ## Options -/

/-- The options by name, with their letters if they have any. -/
def optionNames : List (String × Option Char) :=
  [("errexit", some 'e'), ("noglob", some 'f'), ("ignoreeof", some 'I'),
    ("interactive", some 'i'), ("monitor", some 'm'), ("noexec", some 'n'), ("stdin", some 's'),
    ("xtrace", some 'x'), ("verbose", some 'v'), ("vi", some 'V'), ("emacs", some 'E'),
    ("noclobber", some 'C'), ("allexport", some 'a'), ("notify", some 'b'),
    ("nounset", some 'u'), ("privileged", some 'p'), ("nolog", none), ("debug", none)]

/-- Switches an option on or off. -/
def Session.switch (session : Session) (isOn : Bool) (letter : Char) : Session :=
  { session with
    flags := session.flags.filter (· != letter) ++ if isOn then [letter] else [] }

/-- Switches the option of a letter. -/
def switchLetter (isOn : Bool) (letter : Char) : Run Unit := do
  if flagOrder.contains letter then modify (·.switch isOn letter)
  else abort s!"Illegal option -{letter}"

/-- Switches the option of a name. -/
def switchNamed (isOn : Bool) (name : String) : Run Unit := do
  match optionNames.find? (·.1 == name) with
  | some (_, some letter) => modify (·.switch isOn letter)
  | some (_, none) => return ()
  | none => abort s!"Illegal option -o {name}"

/-- The list of the options, or the commands that switch them so. -/
def optionList (isTable : Bool) (session : Session) : String :=
  let isOn (option : String × Option Char) : Bool := option.2.any session.has
  if isTable then
    "Current option settings\n" ++ String.join (optionNames.map fun option =>
      let gap := String.ofList (List.replicate (16 - option.1.length) ' ')
      let state := if isOn option then "on" else "off"
      s!"{option.1}{gap}{state}\n")
  else
    String.join (optionNames.map fun option =>
      let sign := if isOn option then "-" else "+"
      s!"set {sign}o {option.1}\n")

/-- Switches the options of letters. The letter `o` takes the name of an option from the
arguments. -/
def switchLetters (isOn : Bool) : List Char → List String → Run (List String)
  | [], rest => return rest
  | 'o' :: letters, rest => do
    match rest with
    | [] =>
      let _ ← output (optionList isOn (← get))
      switchLetters isOn letters []
    | name :: rest =>
      switchNamed isOn name
      switchLetters isOn letters rest
  | letter :: letters, rest => do
    switchLetter isOn letter
    switchLetters isOn letters rest

/-- Switches options, and sets the positional arguments to what is left. -/
def switchOptions : Nat → List String → Run Unit
  | 0, _ | _, [] => return ()
  | fuel + 1, argument :: rest => do
    let setArguments (arguments : List String) : Run Unit :=
      modify fun session => { session with arguments := arguments, optionOffset := 0 }
    match argument.toList with
    | ['-', '-'] => setArguments rest
    | ['-'] =>
      modify fun session => (session.switch false 'x').switch false 'v'
      if !rest.isEmpty then setArguments rest
    | '-' :: letters => switchOptions fuel (← switchLetters true letters rest)
    | '+' :: letters => switchOptions fuel (← switchLetters false letters rest)
    | _ => setArguments (argument :: rest)

/-- Does without the control of jobs, for which there is no terminal. In other processes than the
shell's own it is not even tried. -/
def leaveJobControl : Run Unit := do
  let session ← get
  let process ← look fun process _ => process
  if session.has 'm' && session.root == process && session.dialect = .plain then
    complain "can't access tty; job control turned off"
    modify (·.switch false 'm')

/-- Switches options and sets positional arguments, or lists the variables. -/
def setCommand (arguments : List String) : Run Nat := do
  if arguments.isEmpty then
    output (settingLines "" ((← get).sorted.filter (·.value?.isSome)))
  else
    switchOptions (arguments.length + 1) arguments
    leaveJobControl
    return 0

/-- Drops positional arguments. -/
def shiftCommand (arguments : List String) : Run Nat := do
  let count ← numberArgument arguments 1
  if (← get).arguments.length < count then abort "can't shift that many"
  modify fun session =>
    { session with arguments := session.arguments.drop count, optionOffset := 0 }
  return 0

/-! ## Aliases -/

/-- The definition of an alias. -/
def aliasText (name text : String) : String :=
  s!"{name}={singleQuoted text}"

/-- Defines and lists aliases. -/
def aliasCommand (arguments : List String) : Run Nat := do
  if arguments.isEmpty then
    let aliases := (← get).aliases.mergeSort fun first second => bucket first.1 ≤ bucket second.1
    output (String.join (aliases.map fun (name, text) => aliasText name text ++ "\n"))
  else
    let mut status := 0
    for argument in arguments do
      match argument.toList, splitAssignment argument with
      | _ :: _, (name, some text) =>
        if name.isEmpty then
          let _ ← say 2 s!"alias: {argument} not found\n"
          status := 1
        else
          modify fun session =>
            let aliases := session.aliases
            let aliases := if aliases.any (·.1 == name) then
                aliases.map fun old => if old.1 == name then (name, text) else old
              else aliases ++ [(name, text)]
            { session with aliases := aliases }
      | _, (name, _) =>
        match (← get).aliases.find? (·.1 == name) with
        | some (name, text) =>
          let _ ← output (aliasText name text ++ "\n")
        | none =>
          let _ ← say 2 s!"alias: {name} not found\n"
          status := 1
    return status

/-- Removes aliases. -/
def unaliasCommand (arguments : List String) : Run Nat := do
  let (options, names) ← optionsOf "a" arguments
  if !options.isEmpty then
    modify fun session => { session with aliases := [] }
    return 0
  else
    let mut status := 0
    for name in names do
      if (← get).aliases.any (·.1 == name) then
        modify fun session => { session with aliases := session.aliases.filter (·.1 != name) }
      else
        let _ ← say 2 s!"unalias: {name} not found\n"
        status := 1
    return status

end EventHooks.Shell
