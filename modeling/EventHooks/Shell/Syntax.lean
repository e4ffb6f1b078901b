/-!
# Shell commands

The syntax of the command language in which hooks are written. The shell works on bytes: in all its
texts a character stands for the byte of its number.
-/
namespace EventHooks.Shell

mutual

/-- A part of a word. Quoted parts are neither split into fields nor read as patterns. -/
inductive Part
  | literal (text : String)
  | quoted (text : String)
  | parameter (name : String) (form : ParameterForm) (isQuoted : Bool)
  | substitution (body : Option Command) (isQuoted : Bool)
  | arithmetic (expression : List Part) (isQuoted : Bool)

/-- How the value of a parameter is used. With a colon an empty value counts as unset. -/
inductive ParameterForm
  | value
  | length
  | default (colon : Bool) (word : List Part)
  | assign (colon : Bool) (word : List Part)
  | demand (colon : Bool) (word : List Part)
  | alternative (colon : Bool) (word : List Part)
  | trimStart (longest : Bool) (pattern : List Part)
  | trimEnd (longest : Bool) (pattern : List Part)

/-- The redirection of a descriptor. Output that is forced replaces whatever is there. -/
inductive Redirection
  | input (descriptor : Nat) (path : List Part)
  | output (descriptor : Nat) (path : List Part) (isForced : Bool)
  | append (descriptor : Nat) (path : List Part)
  | readWrite (descriptor : Nat) (path : List Part)
  | duplicate (descriptor : Nat) (source : List Part)
  | document (descriptor : Nat) (content : List Part)

/-- A command. Where complaints need it, it knows its line. -/
inductive Command
  | simple (line : Nat) (assignments : List (String × List Part)) (words : List (List Part))
      (redirections : List Redirection)
  | redirected (line : Nat) (body : Command) (redirections : List Redirection)
  | subshell (line : Nat) (body : Command)
  | background (body : Command)
  | pipeline (commands : List Command)
  | negation (body : Command)
  | both (first second : Command)
  | either (first second : Command)
  | sequence (first second : Command)
  | conditional (test yes : Command) (no : Option Command)
  | loop (endsOn : Bool) (test body : Command)
  | iteration (line : Nat) (name : String) (words : Option (List (List Part))) (body : Command)
  | selection (line : Nat) (subject : List Part)
    (branches : List (List (List Part) × Option Command))
  | definition (name : String) (body : Command)

end

/-- A word. -/
abbrev Word := List Part

instance : Inhabited Command := ⟨.simple 1 [] [] []⟩

/-- The builtin commands that belong to the language: an error in one ends the shell, and no
function has the name of one. -/
def specialBuiltins : List String :=
  [":", ".", "break", "continue", "eval", "exec", "exit", "export", "local", "readonly", "return",
    "set", "shift", "times", "trap", "unset"]

/-- Why a text is no command. -/
inductive SyntaxFault
  | unterminatedQuote
  | unterminatedBackquote
  | missingBrace
  | missingParentheses
  | badLoopVariable
  | badFunctionName
  | unexpected (token : String) (expected : Option String)
  deriving DecidableEq, Repr

/-- The words for a fault. -/
def SyntaxFault.message : SyntaxFault → String
  | .unterminatedQuote => "Unterminated quoted string"
  | .unterminatedBackquote => "EOF in backquote substitution"
  | .missingBrace => "Missing '\x7d'"
  | .missingParentheses => "Missing '))'"
  | .badLoopVariable => "Bad for loop variable"
  | .badFunctionName => "Bad function name"
  | .unexpected token none => s!"{token} unexpected"
  | .unexpected token (some expected) => s!"{token} unexpected (expecting {expected})"

end EventHooks.Shell
