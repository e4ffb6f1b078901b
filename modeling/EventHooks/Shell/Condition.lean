import EventHooks.Shell.Arithmetic
import EventHooks.System.World
import EventHooks.Text.ByteText

/-!
# Conditions

The conditions that `test` and brackets decide: on texts, on integers and on files. A word counts as
an operator only where operands leave it no other part to play.
-/
namespace EventHooks.Shell.Condition

/-- Why a condition cannot be decided. -/
inductive Fault
  | illegalNumber (text : String)
  | unexpected (word : String)
  | argumentExpected (operator : String)
  | closingExpected

/-- The words for a fault. -/
def Fault.message : Fault → String
  | .illegalNumber text => s!"Illegal number: {text}"
  | .unexpected word => s!"{word}: unexpected operator"
  | .argumentExpected operator => s!"{operator}: argument expected"
  | .closingExpected => "closing paren expected"

/-- The operators between two operands. -/
def binaryOperators : List String :=
  ["=", "!=", "<", ">", "-eq", "-ne", "-lt", "-le", "-gt", "-ge", "-nt", "-ot", "-ef"]

/-- The operators before an operand. -/
def unaryOperators : List String :=
  ["-n", "-z", "-e", "-f", "-d", "-r", "-w", "-x", "-s", "-t", "-c", "-b", "-p", "-h", "-L", "-S",
    "-g", "-k", "-u", "-O", "-G"]

/-- The operators that combine conditions. -/
def combiningOperators : List String := ["!", "-a", "-o", "(", ")"]

/-- What a condition is decided on: the files, when they were changed, and what is between the
words that it takes. -/
structure Surroundings where
  files : FileStore
  stampOf : Location → Int

/-- The integer that a text writes. -/
def integer (text : String) : Except Fault Int :=
  match Arithmetic.decimal? text with
  | some value => .ok value
  | none => .error (.illegalNumber text)

/-- The location of the entry at a path. -/
def Surroundings.location? (around : Surroundings) (path : String) : Option Location :=
  match around.files.follow (ByteText.toText path) with
  | .ok (.present location _) => some location
  | _ => none

/-- Decides an operator before an operand. -/
def unary (around : Surroundings) (operator operand : String) : Except Fault Bool :=
  let node? := (around.files.status (ByteText.toText operand)).toOption
  match operator, node? with
  | "-n", _ => .ok !operand.isEmpty
  | "-z", _ => .ok operand.isEmpty
  | "-t", _ => (integer operand).map fun _ => false
  | "-e", some _ | "-r", some _ | "-w", some _ | "-O", some _ | "-G", some _ => .ok true
  | "-f", some (.file ..) | "-f", some (.program _) => .ok true
  | "-d", some .directory => .ok true
  | "-c", some (.device _) => .ok true
  | "-x", some (.file _ executable) => .ok executable
  | "-x", some (.program _) | "-x", some .directory => .ok true
  | "-s", some (.file content _) => .ok !content.isEmpty
  | "-s", some (.program _) | "-s", some .directory => .ok true
  | _, _ => .ok false

/-- Decides an operator between two operands. -/
def binary (around : Surroundings) (operator left right : String) : Except Fault Bool := do
  let compare (holds : Int → Int → Bool) : Except Fault Bool := do
    let left ← integer left
    let right ← integer right
    return holds left right
  let compareFiles (holds : Location → Location → Bool) : Bool :=
    match around.location? left, around.location? right with
    | some left, some right => holds left right
    | _, _ => false
  match operator with
  | "=" => return left == right
  | "!=" => return left != right
  | "<" => return left < right
  | ">" => return right < left
  | "-eq" => compare (· == ·)
  | "-ne" => compare (· != ·)
  | "-lt" => compare fun left right => left < right
  | "-le" => compare fun left right => left ≤ right
  | "-gt" => compare fun left right => right < left
  | "-ge" => compare fun left right => right ≤ left
  | "-nt" => return compareFiles fun left right => around.stampOf right < around.stampOf left
  | "-ot" => return compareFiles fun left right => around.stampOf left < around.stampOf right
  | _ => return compareFiles fun left right => left == right

/-- What the first word of some words is. -/
inductive Role
  | ending
  | operand
  | operator (name : String)
  deriving DecidableEq

/-- Whether the word after an operator before an operand makes that operator an operand itself. -/
def leavesOperand : List String → Bool
  | [] => true
  | [_] => false
  | word :: _ => binaryOperators.contains word

/-- The role of the first word. -/
def roleOf : List String → Role
  | [] => .ending
  | word :: rest =>
    if unaryOperators.contains word then
      if leavesOperand rest then .operand else .operator word
    else if word == "(" && rest.isEmpty then .operand
    else if binaryOperators.contains word || combiningOperators.contains word then .operator word
    else .operand

mutual

/-- Decides a disjunction. The words that are left begin with the last one it has taken. -/
def disjunction (around : Surroundings) (fuel : Nat) (words : List String) :
    Except Fault (Bool × List String) :=
  match fuel with
  | 0 => .ok (false, words)
  | fuel + 1 => do
    let (first, last) ← conjunction around fuel words
    if roleOf (last.drop 1) = .operator "-o" then
      let (second, last) ← disjunction around fuel (last.drop 2)
      return (first || second, last)
    else return (first, last)

/-- Decides a conjunction. -/
def conjunction (around : Surroundings) (fuel : Nat) (words : List String) :
    Except Fault (Bool × List String) :=
  match fuel with
  | 0 => .ok (false, words)
  | fuel + 1 => do
    let (first, last) ← negation around fuel words
    if roleOf (last.drop 1) = .operator "-a" then
      let (second, last) ← conjunction around fuel (last.drop 2)
      return (first && second, last)
    else return (first, last)

/-- Decides a condition that may be negated. -/
def negation (around : Surroundings) (fuel : Nat) (words : List String) :
    Except Fault (Bool × List String) :=
  match fuel with
  | 0 => .ok (false, words)
  | fuel + 1 =>
    if roleOf words = .operator "!" then do
      let rest := words.drop 1
      let (value, last) ← negation around fuel rest
      return (!value, if rest.isEmpty then words else last)
    else primary around fuel words

/-- Decides a single condition. -/
def primary (around : Surroundings) (fuel : Nat) (words : List String) :
    Except Fault (Bool × List String) :=
  match fuel with
  | 0 => .ok (false, words)
  | fuel + 1 =>
    match roleOf words, words with
    | .ending, _ | _, [] => .ok (false, words)
    | .operator "(", _ :: rest =>
      if roleOf rest = .operator ")" then .ok (false, rest)
      else do
        let (value, last) ← disjunction around fuel rest
        if roleOf (last.drop 1) = .operator ")" then return (value, last.drop 1)
        else throw .closingExpected
    | role, word :: rest =>
      match decide (role = .operator word ∧ unaryOperators.contains word), rest with
      | true, [] => .error (.argumentExpected word)
      | true, operand :: more =>
        (unary around word operand).map (·, operand :: more)
      | false, operator :: more =>
        if roleOf rest = .operator operator ∧ binaryOperators.contains operator then
          match more with
          | [] => .error (.argumentExpected operator)
          | operand :: _ => (binary around operator word operand).map (·, more)
        else .ok (!word.isEmpty, words)
      | false, [] => .ok (!word.isEmpty, words)

end

/-- Decides words by the rules for few of them: three with an operator in the middle are a
comparison, and otherwise parentheses around them and an exclamation mark before them count
first. -/
def evaluate (around : Surroundings) : Nat → List String → Except Fault Bool
  | 0, _ => .ok false
  | fuel + 1, words =>
    let decided : Except Fault Bool := do
      let (value, last) ← disjunction around (4 * words.length + 8) words
      match last with
      | word :: _ :: _ => throw (.unexpected word)
      | _ => return value
    match words with
    | [] => .ok false
    | [left, operator, right] =>
      if binaryOperators.contains operator then binary around operator left right
      else if left == "(" && right == ")" then .ok !operator.isEmpty
      else if left == "!" then (evaluate around fuel [operator, right]).map (!·)
      else decided
    | [first, second, third, fourth] =>
      if first == "(" && fourth == ")" then
        do
          let (value, last) ← disjunction around 24 [second, third]
          match last with
          | word :: _ :: _ => throw (.unexpected word)
          | _ => return value
      else if first == "!" then (evaluate around fuel [second, third, fourth]).map (!·)
      else decided
    | _ => decided

end EventHooks.Shell.Condition
