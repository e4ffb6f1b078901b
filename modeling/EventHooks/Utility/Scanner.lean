import EventHooks.Utility.Scanner.Run

/-!
# The pattern scanner

A program is given as an argument or in files. Further arguments are inputs, or set variables when
their turn comes.
-/
namespace EventHooks.Utility

namespace Scanner

/-- The variables that a program starts with. -/
def firstVariables : List (String × Value) :=
  [("FS", .text " "), ("OFS", .text " "), ("ORS", .text "\n"), ("RS", .text "\n"),
    ("SUBSEP", .text "\x1c"), ("CONVFMT", .text Number.defaultFormat),
    ("OFMT", .text Number.defaultFormat), ("NR", .number 0.0), ("FNR", .number 0.0),
    ("RSTART", .number 0.0), ("RLENGTH", .number (-1.0)), ("FILENAME", .text "")]

/-- A table with members. -/
def tableWith (members : List (String × Value)) : Std.HashMap String Value :=
  Std.HashMap.ofList members

/-- The state before the first rule runs. -/
def startState (call : Call) (script : Script) (settings : List (String × Value))
    (words : List String) : State :=
  let arguments := (call.name :: words).zipIdx.map fun (word, place) =>
    (toString place, Value.input word)
  let environment := call.environment.map fun (name, value) => (name, Value.input value)
  let count := ("ARGC", Value.ofNat arguments.length)
  { functions := script.functions
    bindings := Std.HashMap.ofList (firstVariables ++ count :: settings)
    tables := Std.HashMap.ofList
      [("ARGV", tableWith arguments), ("ENVIRON", tableWith environment)] }

/-- The functions that an expression calls. -/
def calledIn (text : String) : List (String × Nat) :=
  match tokensOf (text.length + 1) 1 text.toList [] with
  | .ok (found, _) => found.filterMap fun placed =>
      match placed.token with
      | .called name => some (name, placed.line)
      | _ => none
  | .error _ => []

/-- The options of a call, and its other arguments. -/
structure Arguments where
  programs : List String := []
  settings : List (String × Value) := []
  words : List String := []

/-- Takes in the options of a call. -/
def takeOptions (call : Call) : Nat → List String → Arguments → EventHooks.Program Arguments
  | 0, _, arguments => return arguments
  | fuel + 1, words, arguments => do
    let separate (value : String) (rest : List String) : EventHooks.Program Arguments :=
      takeOptions call fuel rest { arguments with
        settings := arguments.settings ++ [("FS", .text (resolved value))] }
    let set (text : String) (rest : List String) : EventHooks.Program Arguments := do
      match setting? text with
      | some setting =>
        takeOptions call fuel rest { arguments with settings := arguments.settings ++ [setting] }
      | none =>
        call.complain s!"improper assignment: -v {text}"
        call.quit 2
    let file (path : String) (rest : List String) : EventHooks.Program Arguments :=
      takeOptions call fuel rest { arguments with programs := arguments.programs ++ [path] }
    match words with
    | "--" :: rest => return { arguments with words := rest }
    | "-F" :: value :: rest => separate value rest
    | "-v" :: value :: rest => set value rest
    | "-f" :: path :: rest => file path rest
    | word :: rest =>
      let value := (word.drop 2).toString
      if word == "-" || !word.startsWith "-" then return { arguments with words := words }
      else if value.isEmpty && ["-F", "-v", "-f"].contains word then
        call.complain s!"option requires an argument -- {word.drop 1}"
        call.quit 2
      else if word.startsWith "-F" then separate value rest
      else if word.startsWith "-v" then set value rest
      else if word.startsWith "-f" then file value rest
      else if word.startsWith "-W" then takeOptions call fuel rest arguments
      else
        call.complain s!"not an option: {word}"
        call.quit 2
    | [] => return arguments

end Scanner

/-- Runs a program of rules for the records of inputs. -/
def awk : Tool := fun call => do
  let call := { call with noRoom := { words := Scanner.closingFault "/dev/stdout", status := 2 } }
  let arguments ← Scanner.takeOptions call (call.arguments.length + 1) call.arguments {}
  let (text, words) ← match arguments.programs, arguments.words with
    | [], [] =>
      call.print "Usage: mawk [Options] [Program] [file ...]\n"
      call.quit 0
    | [], text :: words => pure (text, words)
    | paths, words => do
      let texts ← paths.mapM fun path => do
        match ← call.contents path with
        | .ok content => pure (ByteText.ofBytes content)
        | .error errno =>
          call.complain s!"cannot open \"{path}\" ({errno.words})"
          call.quit 2
      pure ("\n".intercalate texts, words)
  match Scanner.readScript text with
  | .error fault =>
    call.complain s!"{fault.place}: {fault.message}"
    return 2
  | .ok script =>
    let missing? := (Scanner.calledIn text).reverse.find? fun called =>
      !script.functions.any (·.name == called.1)
    match missing? with
    | some (name, line) =>
      call.complain s!"line {line + 1}: function {name} never defined"
      return 2
    | none =>
      let start := Scanner.startState call script arguments.settings words
      call.gathering do
        let (result, _) ← (Scanner.runScript call script).run.run start
        return match result with
          | .ok status => status
          | .error _ => 2

end EventHooks.Utility
