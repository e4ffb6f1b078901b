import EventHooks.Shell.Condition
import EventHooks.Shell.Format
import EventHooks.Text.Regex
import EventHooks.Utility.Call

/-!
# Utilities that work on their arguments

Arguments are written, decided as conditions and computed as expressions.
-/
namespace EventHooks.Utility

/-! ## Writing -/

/-- Writes its arguments. -/
def echo : Tool := fun call => do
  call.print (Shell.Format.echoWithOptions call.arguments)
  return 0

/-- Writes its arguments by a format. -/
def printf : Tool := fun call => do
  let words := if call.arguments.head? == some "--" then call.arguments.drop 1 else call.arguments
  match words with
  | [] => call.misuse "missing operand"
  | format :: arguments =>
    let outcome := Shell.Format.printf .extended format arguments
    call.print outcome.text
    for complaint in outcome.complaints do
      call.complain complaint.utilityMessage
    let isUsed := !format.toList.contains '%' && !arguments.isEmpty
    if isUsed then
      let first := quoted (arguments.headD "")
      call.complain s!"warning: ignoring excess arguments, starting with {first}"
    return if outcome.complaints.isEmpty then 0 else 1

/-! ## Conditions -/

/-- The words for a condition that cannot be decided. -/
def conditionMessage : Shell.Condition.Fault → String
  | .illegalNumber text => s!"invalid integer {quoted text}"
  | .unexpected word => s!"extra argument {quoted word}"
  | .argumentExpected operator => s!"missing argument after {quoted operator}"
  | .closingExpected => "')' expected"

/-- Decides a condition. -/
def test (isBracket : Bool) : Tool := fun call => do
  let words? := if isBracket then
      if call.arguments.getLast? == some "]" then some call.arguments.dropLast else none
    else some call.arguments
  match words? with
  | none =>
    call.complain "missing ']'"
    return 2
  | some words =>
    let around ← Program.observe fun process world =>
      ({ files := world.filesOf process, stampOf := world.stampOf } :
        Shell.Condition.Surroundings)
    match Shell.Condition.evaluate around (words.length + 4) words with
    | .ok holds => return if holds then 0 else 1
    | .error fault =>
      call.complain (conditionMessage fault)
      return 2

/-! ## Expressions -/

/-- Why an expression has no value. -/
inductive ExpressionFault
  | missingAfter (word : String)
  | unexpected (word : String)
  | expectingClosing (word : String)
  | noInteger
  | divisionByZero
  | badPattern (fault : Regex.Fault)

/-- The words for a fault. -/
def ExpressionFault.message : ExpressionFault → String
  | .missingAfter word => s!"syntax error: missing argument after {quoted word}"
  | .unexpected word => s!"syntax error: unexpected argument {quoted word}"
  | .expectingClosing word => s!"syntax error: expecting ')' after {quoted word}"
  | .noInteger => "non-integer argument"
  | .divisionByZero => "division by zero"
  | .badPattern fault => fault.message

/-- The integer that a text writes. -/
def integerIn? (text : String) : Option Int :=
  let (isNegative, digits) := match text.toList with
    | '-' :: rest => (true, rest)
    | digits => (false, digits)
  if digits.isEmpty || !digits.all (·.isDigit) then none
  else
    let value : Int := digits.foldl (fun value c => value * 10 + (c.toNat - '0'.toNat)) 0
    some (if isNegative then -value else value)

/-- Whether a value counts as false: it is empty or zero. -/
def isNull (text : String) : Bool :=
  text.isEmpty || integerIn? text == some 0

/-- The words of an expression that are left, and the one before them. -/
structure ExpressionState where
  rest : List String
  before : String := ""

/-- Readers of expressions. -/
abbrev ExpressionReader := StateT ExpressionState (Except ExpressionFault)

/-- Takes the next word. -/
def nextWord : ExpressionReader String := do
  let state ← get
  match state.rest with
  | [] => throw (.missingAfter state.before)
  | word :: rest =>
    set ({ rest := rest, before := word } : ExpressionState)
    return word

/-- Takes the next word if it is one of some. -/
def takeWord? (words : List String) : ExpressionReader (Option String) := do
  let state ← get
  match state.rest with
  | word :: rest =>
    if words.contains word then
      set ({ rest := rest, before := word } : ExpressionState)
      return some word
    else return none
  | [] => return none

/-- The integer that a value is. -/
def integerOf (text : String) : ExpressionReader Int :=
  match integerIn? text with
  | some value => return value
  | none => throw .noInteger

/-- What the start of a text has in common with a pattern: the text of its group, or else how many
characters match. -/
def matchStart (text pattern : String) : ExpressionReader String := do
  match Regex.read { isExtended := false } pattern with
  | .error fault => throw (.badPattern fault)
  | .ok regex =>
    let chars := text.toList
    let hasGroup := (pattern.toList.zip (pattern.toList.drop 1)).contains ('\\', '(')
    match regex.matchAt? { chars := chars.toArray } 0 with
    | none => return if hasGroup then "" else "0"
    | some found =>
      if hasGroup then
        return match found.group? 1 with
          | some (start, stop) => String.ofList ((chars.take stop).drop start)
          | none => ""
      else return toString found.stop

/-- The result of a comparison. -/
def compareValues (operator left right : String) : String :=
  let order : Ordering := match integerIn? left, integerIn? right with
    | some left, some right => compare left right
    | _, _ => if left == right then .eq else if left < right then .lt else .gt
  let holds : Bool := match operator with
    | "<" => order == .lt
    | "<=" => order != .gt
    | "=" | "==" => order == .eq
    | "!=" => order != .eq
    | ">=" => order != .lt
    | _ => order == .gt
  if holds then "1" else "0"

/-- The result of a computation. -/
def computeValues (operator left right : String) : ExpressionReader String := do
  let left ← integerOf left
  let right ← integerOf right
  match operator with
  | "+" => return toString (left + right)
  | "-" => return toString (left - right)
  | "*" => return toString (left * right)
  | operator =>
    if right = 0 then throw .divisionByZero
    else return toString (if operator == "/" then left.tdiv right else left.tmod right)

/-- The operators of a level, from those that bind least on. -/
def levelOperators : Nat → List String
  | 0 => ["|"]
  | 1 => ["&"]
  | 2 => ["<", "<=", "=", "==", "!=", ">=", ">"]
  | 3 => ["+", "-"]
  | 4 => ["*", "/", "%"]
  | _ => [":"]

mutual

/-- Computes the operators of a level and of those that bind more. -/
def computeLevel (fuel level : Nat) : ExpressionReader String :=
  match fuel with
  | 0 => return ""
  | fuel + 1 => do
    if 5 < level then computePrimary fuel
    else
      let first ← computeLevel fuel (level + 1)
      computeRest fuel level first

/-- Goes on with the operators of a level. -/
def computeRest (fuel level : Nat) (left : String) : ExpressionReader String :=
  match fuel with
  | 0 => return left
  | fuel + 1 => do
    match ← takeWord? (levelOperators level) with
    | none => return left
    | some operator =>
      let right ← computeLevel fuel (level + 1)
      let value ← match level with
        | 0 => pure (if !isNull left then left else if !isNull right then right else "0")
        | 1 => pure (if isNull left || isNull right then "0" else left)
        | 2 => pure (compareValues operator left right)
        | 3 | 4 => computeValues operator left right
        | _ => matchStart left right
      computeRest fuel level value

/-- Computes a word, a function or what stands in parentheses. -/
def computePrimary (fuel : Nat) : ExpressionReader String :=
  match fuel with
  | 0 => return ""
  | fuel + 1 => do
    let word ← nextWord
    match word with
    | "(" =>
      let value ← computeLevel fuel 0
      let before := (← get).before
      match ← takeWord? [")"] with
      | some _ => return value
      | none =>
        match (← get).rest with
        | [] => throw (.expectingClosing before)
        | other :: _ => throw (.unexpected other)
    | ")" => throw (.unexpected ")")
    | "+" => nextWord
    | "length" => return toString (← computePrimary fuel).length
    | "match" =>
      let text ← computePrimary fuel
      matchStart text (← computePrimary fuel)
    | "index" =>
      let text ← computePrimary fuel
      let wanted ← computePrimary fuel
      return toString ((text.toList.findIdx? wanted.toList.contains).elim 0 (· + 1))
    | "substr" =>
      let text ← computePrimary fuel
      let start ← computePrimary fuel
      let count ← computePrimary fuel
      match integerIn? start, integerIn? count with
      | some start, some count =>
        if start < 1 || count < 1 then return ""
        else return String.ofList ((text.toList.drop (start.toNat - 1)).take count.toNat)
      | _, _ => return ""
    | word => return word

end

/-- Computes an expression. -/
def expr : Tool := fun call => do
  let words := if call.arguments.head? == some "--" then call.arguments.drop 1 else call.arguments
  if words.isEmpty then call.misuse "missing operand" 2
  let start : ExpressionState := { rest := words }
  let fail (fault : ExpressionFault) : Program Nat := do
    call.complain fault.message
    return 2
  match (computeLevel (16 * words.length + 16) 0).run start with
  | .error fault => fail fault
  | .ok (value, state) =>
    match state.rest with
    | word :: _ => fail (.unexpected word)
    | [] =>
      (call.failingWith 3).print (value ++ "\n")
      return if isNull value then 1 else 0

end EventHooks.Utility
