/-!
# Arithmetic

Arithmetic expansions compute with integers of 64 bits. Variables may be set on the way, and the
sides of a conjunction, a disjunction and a choice are only computed where they count.
-/
namespace EventHooks.Shell.Arithmetic

/-- A token of an expression. -/
inductive Lexeme
  | number (value : Int)
  | name (name : String)
  | symbol (symbol : String)
  deriving DecidableEq

/-- Why an expression has no value. -/
inductive Fault
  | expectingPrimary
  | expectingClosing
  | expectingColon
  | expectingEnd
  | divisionByZero
  | illegalNumber (text : String)

/-- The words for a fault in an expression. -/
def Fault.message (expression : String) (fault : Fault) : String :=
  let words (what : String) : String := s!"arithmetic expression: {what}: \"{expression}\""
  match fault with
  | .expectingPrimary => words "expecting primary"
  | .expectingClosing => words "expecting ')'"
  | .expectingColon => words "expecting ':'"
  | .expectingEnd => words "expecting EOF"
  | .divisionByZero => words "division by zero"
  | .illegalNumber text => s!"Illegal number: {text}"

/-- An expression. One that is broken has a fault in its writing behind what could be read. -/
inductive Expression
  | number (value : Int)
  | name (name : String)
  | prefixed (symbol : String) (operand : Expression)
  | binary (symbol : String) (left right : Expression)
  | choice (test yes no : Expression)
  | assignment (name symbol : String) (value : Expression)
  | broken (before : Expression) (fault : Fault)

/-- The first fault in the writing of an expression. -/
def Expression.fault? : Expression → Option Fault
  | .number _ | .name _ => none
  | .prefixed _ inner | .assignment _ _ inner => inner.fault?
  | .binary _ left right => left.fault?.or right.fault?
  | .choice test yes no => test.fault?.or (yes.fault?.or no.fault?)
  | .broken before fault => before.fault?.or (some fault)

/-- An expression of which nothing could be read. -/
def Expression.missing (fault : Fault) : Expression := .broken (.number 0) fault

/-- How many integers 64 bits tell apart. -/
def modulus : Nat := Nat.pow 2 64

/-- An integer kept to 64 bits. -/
def wrap (value : Int) : Int :=
  value.bmod modulus

/-- The bits of an integer, as a number. -/
def unsigned (value : Int) : Nat :=
  (value % modulus).toNat

/-- The symbols, the longer ones first. -/
def symbols : List String :=
  ["<<=", ">>=", "<<", ">>", "<=", ">=", "==", "!=", "&&", "||", "+=", "-=", "*=", "/=", "%=",
    "&=", "^=", "|=", "+", "-", "*", "/", "%", "<", ">", "!", "~", "&", "^", "|", "?", ":", "=",
    "(", ")"]

/-- The value of digits to a base. -/
def digitsValue? (base : Nat) (digits : List Char) : Option Nat :=
  digits.foldlM (fun value c =>
    let digit? : Option Nat :=
      if c.isDigit then some (c.toNat - '0'.toNat)
      else if 'a' ≤ c ∧ c ≤ 'f' then some (c.toNat - 'a'.toNat + 10)
      else if 'A' ≤ c ∧ c ≤ 'F' then some (c.toNat - 'A'.toNat + 10)
      else none
    match digit? with
    | some digit => if digit < base then some (value * base + digit) else none
    | none => none) 0

/-- Takes a literal off characters: decimal, octal after a zero, hexadecimal after `0x`, or binary
after `0b`. -/
def takeLiteral (chars : List Char) : Option (Nat × List Char) :=
  let take (base : Nat) (digits : List Char) : Nat × List Char :=
    let run := digits.takeWhile fun c => (digitsValue? base [c]).isSome
    ((digitsValue? base run).getD 0, digits.drop run.length)
  let starts (base : Nat) (digit : Char) : Bool := (digitsValue? base [digit]).isSome
  match chars with
  | '0' :: mark :: digit :: rest =>
    if (mark == 'x' || mark == 'X') && starts 16 digit then some (take 16 (digit :: rest))
    else if (mark == 'b' || mark == 'B') && starts 2 digit then some (take 2 (digit :: rest))
    else some (take 8 chars)
  | '0' :: _ => some (take 8 chars)
  | digit :: _ => if digit.isDigit then some (take 10 chars) else none
  | [] => none

/-- The largest integer. -/
def largest : Int := 9223372036854775807

/-- The least integer. -/
def least : Int := -9223372036854775808

/-- A text without the blanks around it, and its sign. -/
def signed (text : String) : Bool × List Char :=
  let isGap (c : Char) : Bool := c == ' ' || ('\t' ≤ c && c ≤ '\r')
  let trimmed := ((text.toList.dropWhile isGap).reverse.dropWhile isGap).reverse
  match trimmed with
  | '-' :: digits => (true, digits)
  | '+' :: digits => (false, digits)
  | digits => (false, digits)

/-- The value of a text with a sign and blanks around it, if it is in range. -/
def integer? (text : String) : Option Int := do
  let (isNegative, digits) := signed text
  let (size, rest) ← takeLiteral digits
  if !rest.isEmpty then none
  let value : Int := if isNegative then -size else size
  if value < least ∨ largest < value then none else some value

/-- The value of a text in decimal digits, with a sign and blanks around it, if it is in range. -/
def decimal? (text : String) : Option Int := do
  let (isNegative, digits) := signed text
  let value ← if digits.isEmpty then none else digitsValue? 10 digits
  let value : Int := if isNegative then -value else value
  if value < least ∨ largest < value then none else some value

/-- The tokens of an expression. A character that means nothing is a symbol of its own. -/
def lexemes : Nat → List Char → List Lexeme
  | 0, _ => []
  | _, [] => []
  | fuel + 1, c :: rest =>
    let isWord (c : Char) : Bool := c.isAlphanum || c == '_'
    if c == ' ' || c == '\t' || c == '\n' then lexemes fuel rest
    else
      match takeLiteral (c :: rest) with
      | some (value, rest) => .number (min (value : Int) largest) :: lexemes fuel rest
      | none =>
        if isWord c then
          let word := (c :: rest).takeWhile isWord
          .name (String.ofList word) :: lexemes fuel ((c :: rest).drop word.length)
        else
          let symbol := (symbols.find? fun symbol => symbol.toList.isPrefixOf (c :: rest)).getD
            (String.singleton c)
          .symbol symbol :: lexemes fuel ((c :: rest).drop symbol.length)

/-! ## Reading -/

/-- How tightly a binary operator binds. -/
def binding? : String → Option Nat
  | "||" => some 1
  | "&&" => some 2
  | "|" => some 3
  | "^" => some 4
  | "&" => some 5
  | "==" | "!=" => some 6
  | "<" | ">" | "<=" | ">=" => some 7
  | "<<" | ">>" => some 8
  | "+" | "-" => some 9
  | "*" | "/" | "%" => some 10
  | _ => none

/-- The operator that an assignment applies first. -/
def assignmentOperator? (symbol : String) : Option String :=
  if symbol == "=" then some ""
  else if ["+=", "-=", "*=", "/=", "%=", "&=", "^=", "|=", "<<=", ">>="].contains symbol then
    some (String.ofList symbol.toList.dropLast)
  else none

mutual

/-- Reads an operand. -/
def operand (fuel : Nat) (items : List Lexeme) : Expression × List Lexeme :=
  match fuel with
  | 0 => (.missing .expectingPrimary, [])
  | fuel + 1 =>
    match items with
    | .number value :: rest => (.number value, rest)
    | .name name :: rest => (.name name, rest)
    | .symbol "(" :: rest =>
      match expression fuel rest with
      | (inner, .symbol ")" :: rest) => (inner, rest)
      | (inner, _) => (.broken inner .expectingClosing, [])
    | .symbol symbol :: rest =>
      if ["+", "-", "!", "~"].contains symbol then
        let (inner, rest) := operand fuel rest
        (.prefixed symbol inner, rest)
      else (.missing .expectingPrimary, [])
    | [] => (.missing .expectingPrimary, [])

/-- Reads operators that bind at least as tightly as a bound. -/
def operators (fuel : Nat) (bound : Nat) (left : Expression) (items : List Lexeme) :
    Expression × List Lexeme :=
  match fuel with
  | 0 => (left, items)
  | fuel + 1 =>
    match items with
    | .symbol symbol :: rest =>
      match binding? symbol with
      | some strength =>
        if strength < bound then (left, items)
        else
          let (right, rest) := operand fuel rest
          let (right, rest) := operators fuel (strength + 1) right rest
          operators fuel bound (.binary symbol left right) rest
      | none => (left, items)
    | _ => (left, items)

/-- Reads an expression. -/
def expression (fuel : Nat) (items : List Lexeme) : Expression × List Lexeme :=
  match fuel with
  | 0 => (.missing .expectingPrimary, [])
  | fuel + 1 =>
    match items with
    | .name name :: .symbol symbol :: rest =>
      match assignmentOperator? symbol with
      | some operator =>
        let (value, rest) := expression fuel rest
        (.assignment name operator value, rest)
      | none => choice fuel items
    | _ => choice fuel items

/-- Reads a choice. -/
def choice (fuel : Nat) (items : List Lexeme) : Expression × List Lexeme :=
  match fuel with
  | 0 => (.missing .expectingPrimary, [])
  | fuel + 1 =>
    let (first, rest) := operand fuel items
    let (test, rest) := operators fuel 0 first rest
    match rest with
    | .symbol "?" :: rest =>
      match expression fuel rest with
      | (yes, .symbol ":" :: rest) =>
        let (no, rest) := choice fuel rest
        (.choice test yes no, rest)
      | (yes, _) => (.choice test (.broken yes .expectingColon) (.number 0), [])
    | rest => (test, rest)

end

/-! ## Computing -/

/-- The values of variables that an expression sets. -/
abbrev Assignments := List (String × Int)

/-- The value of a binary operator on values. -/
def apply (symbol : String) (left right : Int) : Except Fault Int :=
  let truth (value : Bool) : Int := if value then 1 else 0
  match symbol with
  | "+" => .ok (wrap (left + right))
  | "-" => .ok (wrap (left - right))
  | "*" => .ok (wrap (left * right))
  | "/" => if right = 0 then .error .divisionByZero else .ok (wrap (left.tdiv right))
  | "%" => if right = 0 then .error .divisionByZero else .ok (wrap (left.tmod right))
  | "<<" => .ok (wrap (left * Nat.pow 2 (unsigned right % 64)))
  | ">>" => .ok (left / Nat.pow 2 (unsigned right % 64))
  | "<" => .ok (truth (left < right))
  | ">" => .ok (truth (right < left))
  | "<=" => .ok (truth (left ≤ right))
  | ">=" => .ok (truth (right ≤ left))
  | "==" => .ok (truth (left == right))
  | "!=" => .ok (truth (left != right))
  | "&" => .ok (wrap (unsigned left &&& unsigned right : Nat))
  | "^" => .ok (wrap (unsigned left ^^^ unsigned right : Nat))
  | "|" => .ok (wrap (unsigned left ||| unsigned right : Nat))
  | _ => .ok right

/-- The value of a variable; one that is unset or empty is zero. -/
def variableValue (lookup : String → Option String) (assigned : Assignments) (name : String) :
    Except Fault Int :=
  match assigned.find? (·.1 == name) with
  | some (_, value) => .ok value
  | none =>
    let text := (lookup name).getD ""
    if text.isEmpty then .ok 0
    else
      match integer? text with
      | some value => .ok (wrap value)
      | none => .error (.illegalNumber text)

/-- Passes over an expression that does not count, unless it is broken. -/
def pass (expression : Expression) : Except Fault Unit :=
  match expression.fault? with
  | some fault => .error fault
  | none => .ok ()

/-- Computes an expression. -/
def compute (lookup : String → Option String) (assigned : Assignments) :
    Expression → Except Fault (Int × Assignments)
  | .number value => .ok (wrap value, assigned)
  | .name name => (variableValue lookup assigned name).map (·, assigned)
  | .prefixed symbol inner => do
    let (value, assigned) ← compute lookup assigned inner
    match symbol with
    | "-" => return (wrap (-value), assigned)
    | "!" => return (if value = 0 then 1 else 0, assigned)
    | "~" => return (-value - 1, assigned)
    | _ => return (value, assigned)
  | .binary symbol left right => do
    let (first, assigned) ← compute lookup assigned left
    if (symbol == "&&" && first == 0) || (symbol == "||" && first != 0) then
      pass right
      return (if first = 0 then 0 else 1, assigned)
    else
      let (second, assigned) ← compute lookup assigned right
      if symbol == "&&" || symbol == "||" then return (if second = 0 then 0 else 1, assigned)
      else return (← apply symbol first second, assigned)
  | .choice test yes no => do
    let (value, assigned) ← compute lookup assigned test
    if value = 0 then
      pass yes
      compute lookup assigned no
    else
      let found ← compute lookup assigned yes
      pass no
      return found
  | .assignment name operator inner => do
    let (value, assigned) ← compute lookup assigned inner
    let value ← if operator.isEmpty then pure value
      else do apply operator (← variableValue lookup assigned name) value
    return (value, (name, value) :: assigned.filter (·.1 != name))
  | .broken before fault => do
    let _ ← compute lookup assigned before
    throw fault

/-- The value of a text, with the variables that it sets. A fault in its writing counts only after
what stands before it has been computed. -/
def evaluate (lookup : String → Option String) (text : String) :
    Except Fault (Int × Assignments) :=
  let items := lexemes (text.length + 1) text.toList
  let (found, rest) := expression (8 * items.length + 8) items
  compute lookup [] (if rest.isEmpty then found else .broken found .expectingEnd)

end EventHooks.Shell.Arithmetic
