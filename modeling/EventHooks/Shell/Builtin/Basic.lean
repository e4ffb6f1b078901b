import EventHooks.Shell.Arithmetic
import EventHooks.Shell.Direction
import EventHooks.Text.Layout

/-!
# Builtin commands: options, numbers and output

What the commands have in common that a shell runs itself.
-/
namespace EventHooks.Shell

/-- The other builtin commands, which may be hidden by functions. -/
def otherBuiltins : List String :=
  ["[", "alias", "bg", "cd", "chdir", "command", "echo", "false", "fg", "getopts", "hash", "jobs",
    "kill", "printf", "pwd", "read", "test", "true", "type", "ulimit", "umask", "unalias", "wait"]

/-- Whether a name is that of a builtin command. -/
def isBuiltin (name : String) : Bool :=
  specialBuiltins.contains name || otherBuiltins.contains name

/-- The builtin commands whose arguments may be assignments. -/
def declaringBuiltins : List String := ["alias", "export", "local", "readonly"]

/-- Writes the output of a builtin command. The status tells whether there was room. -/
def output (text : String) : Run Nat := do
  if ← say 1 text then return 0
  else
    let name := ((← get).command).getD ""
    complain s!"{name}: I/O error"
    return 1

/-- The number in an argument. -/
def numberIn (text : String) : Run Nat :=
  match Arithmetic.decimal? text with
  | some value =>
    if 0 ≤ value ∧ value < Nat.pow 2 31 then return value.toNat
    else abort s!"Illegal number: {text}"
  | none => abort s!"Illegal number: {text}"

/-- The number in the first argument, if there is one. -/
def numberArgument (arguments : List String) (otherwise : Nat) : Run Nat :=
  match arguments with
  | [] => return otherwise
  | text :: _ => numberIn text

/-- The name and the value of an argument, at its first equals sign. -/
def splitAssignment (text : String) : String × Option String :=
  let name := text.toList.takeWhile (· != '=')
  (String.ofList name,
    match text.toList.dropWhile (· != '=') with
    | [] => none
    | _ :: value => some (String.ofList value))

/-- Takes in the option letters of a word. Those before a colon in `known` take a value, which may
be the next argument. -/
def takeLetters (known : List Char) :
    List Char → List String → Run (List (Char × String) × List String)
  | [], rest => return ([], rest)
  | letter :: letters, rest => do
    match known.dropWhile (· != letter) with
    | _ :: ':' :: _ =>
      match letters, rest with
      | [], [] => abort s!"No arg for -{letter} option"
      | [], value :: rest => return ([(letter, value)], rest)
      | letters, rest => return ([(letter, String.ofList letters)], rest)
    | _ :: _ =>
      if letter == ':' then abort s!"Illegal option -{letter}"
      else
        let (more, rest) ← takeLetters known letters rest
        return ((letter, "") :: more, rest)
    | [] => abort s!"Illegal option -{letter}"

/-- Takes in the options in front of the arguments. -/
def takeOptions (known : String) :
    Nat → List String → Run (List (Char × String) × List String)
  | 0, arguments => return ([], arguments)
  | _, [] => return ([], [])
  | fuel + 1, argument :: rest => do
    match argument.toList with
    | ['-', '-'] => return ([], rest)
    | '-' :: letter :: letters =>
      let (options, rest) ← takeLetters known.toList (letter :: letters) rest
      let (more, rest) ← takeOptions known fuel rest
      return (options ++ more, rest)
    | _ => return ([], argument :: rest)

/-- The options in front of the arguments, and the other arguments. -/
def optionsOf (known : String) (arguments : List String) :
    Run (List (Char × String) × List String) :=
  takeOptions known (arguments.length + 1) arguments

/-- The pieces that quote a text for the shell: single quotes around most of it, and double quotes
around the single quotes in it. -/
def quotedPieces : Nat → List Char → List Char
  | 0, _ => []
  | fuel + 1, chars =>
    let plain := chars.takeWhile (· != '\'')
    let rest := chars.drop plain.length
    let quotes := rest.takeWhile (· == '\'')
    let after := rest.drop quotes.length
    ['\''] ++ plain ++ ['\''] ++ (if quotes.isEmpty then [] else ['"'] ++ quotes ++ ['"']) ++
      (if after.isEmpty then [] else quotedPieces fuel after)

/-- A text that the shell reads as one word. -/
def singleQuoted (text : String) : String :=
  String.ofList (quotedPieces (text.length + 1) text.toList)

end EventHooks.Shell
