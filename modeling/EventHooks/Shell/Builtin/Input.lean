import EventHooks.Shell.Builtin.Variable
import EventHooks.Shell.Field

/-!
# Builtin commands that read

A line of the standard input is read into variables, and the arguments of a script are read as
options.
-/
namespace EventHooks.Shell

/-! ## Lines -/

/-- Takes a byte of the standard input. There is none at its end, and when a caught signal comes
before the byte. -/
def readInputByte : Run (Option UInt8) := do
  match ← look fun process world => world.handleOf process 0 with
  | none => return none
  | some handle =>
    perform (Program.waitUntil none fun process world =>
      world.canRead handle || world.hasPending process)
    if ← look fun _ world => world.canRead handle then
      match ← perform (Program.readSome 0 1) with
      | .ok bytes => return bytes.head?
      | .error _ => return none
    else return none

/-- Takes a line of the standard input byte by byte. The result tells whether it was complete. A
backslash lets the character after it stand for itself, unless the line is raw. -/
def readInputLine (isRaw : Bool) : Nat → Bool → List Atom → Run (List Atom × Bool)
  | 0, _, atoms => return (atoms.reverse, false)
  | fuel + 1, isEscaped, atoms => do
    match ← readInputByte with
    | none => return (atoms.reverse, false)
    | some byte =>
      let c := Char.ofNat byte.toNat
      if byte == 0 then readInputLine isRaw fuel isEscaped atoms
      else if isEscaped then
        if c == '\n' then readInputLine isRaw fuel false atoms
        else readInputLine isRaw fuel false (.char c false false :: atoms)
      else if c == '\\' && !isRaw then readInputLine isRaw fuel true atoms
      else if c == '\n' then return (atoms.reverse, true)
      else readInputLine isRaw fuel false (.char c false true :: atoms)

/-- Whether an atom separates fields. -/
def Atom.separates (separators : List Char) : Atom → Bool
  | .char c _ splits => splits && separators.contains c
  | _ => false

/-- Whether an atom is a blank that separates fields. -/
def Atom.isGap (separators : List Char) : Atom → Bool
  | .char c _ splits => splits && separators.contains c && isBlankSeparator c
  | _ => false

/-- Drops the blanks that follow a field, with one other separator among them. -/
def dropSeparator (separators : List Char) (atoms : List Atom) : List Atom :=
  let rest := atoms.dropWhile (·.isGap separators)
  match rest with
  | atom :: more =>
    if atom.separates separators then more.dropWhile (·.isGap separators) else rest
  | [] => []

/-- Gives the fields of a line to names. The last name takes all that is left, or the only field if
there is one field left. -/
def assignFields (separators : List Char) : List String → List Atom → Run Unit
  | [], _ => return ()
  | [name], atoms => do
    let trimmed := ((atoms.reverse.dropWhile (·.isGap separators)).reverse)
    let field := atoms.takeWhile (!·.separates separators)
    let isOnly := (dropSeparator separators (atoms.drop field.length)).isEmpty
    assignNamed name (plainOf (if isOnly then field else trimmed))
  | name :: names, atoms => do
    let field := atoms.takeWhile (!·.separates separators)
    assignNamed name (plainOf field)
    assignFields separators names (dropSeparator separators (atoms.drop field.length))

/-- Reads a line into variables. -/
def readCommand (arguments : List String) : Run Nat := do
  let (options, names) ← optionsOf "p:r" arguments
  if names.isEmpty then abort "arg count"
  let isRaw := options.any (·.1 == 'r')
  let (atoms, isComplete) ← readInputLine isRaw Program.patience false []
  let separators := (← get).separators
  assignFields separators names (atoms.dropWhile (·.isGap separators))
  return if isComplete then 0 else 1

/-! ## Options of scripts -/

/-- Where the options of a script are being read: the number of the next argument, and the letters
that are left of the one before it. -/
structure OptionPlace where
  index : Nat
  letters : List Char

/-- The place of the next option letter among words, if there is one, and otherwise the number of
the next argument. -/
def OptionPlace.advance (place : OptionPlace) (words : List String) : Except Nat OptionPlace :=
  if !place.letters.isEmpty then .ok place
  else
    match ((words[place.index - 1]?).getD "").toList with
    | ['-', '-'] => .error (place.index + 1)
    | '-' :: letter :: letters => .ok ⟨place.index + 1, letter :: letters⟩
    | _ => .error place.index

/-- Takes the next option letter of the arguments, with its value if it has one. -/
def getoptsCommand (arguments : List String) : Run Nat := do
  let (_, arguments) ← optionsOf "" arguments
  match arguments with
  | known :: name :: given =>
    let session ← get
    let words := if given.isEmpty then session.arguments else given
    let wordAt (index : Nat) : List Char := ((words[index]?).getD "").toList
    let index := max 1 (Layout.takeNumber ((session.value? "OPTIND").getD "1").toList).1
    let letters := if index ≤ 1 ∨ session.optionOffset = 0 then []
      else (wordAt (index - 2)).drop session.optionOffset
    let finish (place : OptionPlace) (found : String) (status : Nat) : Run Nat := do
      assign "OPTIND" (toString place.index)
      assignNamed name found
      let offset := if place.letters.isEmpty then 0
        else (wordAt (place.index - 2)).length - place.letters.length
      modify fun session => { session with optionOffset := offset }
      return status
    let isQuiet := known.toList.head? = some ':'
    let complain (letter : Char) (words : String) : Run Unit := do
      if isQuiet then assign "OPTARG" (String.singleton letter)
      else
        let _ ← say 2 words
        modify fun session => session.dropVariable "OPTARG"
    match (OptionPlace.mk index letters).advance words with
    | .error index => finish ⟨index, []⟩ "?" 1
    | .ok ⟨index, []⟩ => finish ⟨index, []⟩ "?" 1
    | .ok ⟨index, letter :: letters⟩ =>
      match known.toList.dropWhile (· != letter) with
      | _ :: ':' :: _ =>
        match letters, words[index - 1]? with
        | [], none =>
          complain letter s!"No arg for -{letter} option\n"
          finish ⟨index, []⟩ (if isQuiet then ":" else "?") 0
        | [], some value =>
          assign "OPTARG" value
          finish ⟨index + 1, []⟩ (String.singleton letter) 0
        | letters, _ =>
          assign "OPTARG" (String.ofList letters)
          finish ⟨index, []⟩ (String.singleton letter) 0
      | _ :: _ =>
        assign "OPTARG" ""
        finish ⟨index, letters⟩ (String.singleton letter) 0
      | [] =>
        complain letter s!"Illegal option -{letter}\n"
        finish ⟨index, letters⟩ "?" 0
  | _ => abort "Usage: getopts optstring var [arg...]"

end EventHooks.Shell
