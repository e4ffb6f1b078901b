import EventHooks.Number.FloatText
import EventHooks.Utility.Scanner.Syntax
import EventHooks.Utility.Scanner.Number

/-!
# Reading programs of the pattern scanner

The text of a program is parted into tokens. A slash starts an expression in slashes where no value
stands before it, and is a division otherwise.
-/
namespace EventHooks.Utility.Scanner

/-! ## Tokens -/

/-- A token of a program. A name that a parenthesis follows at once is called. -/
inductive Token
  | number (value : Float)
  | text (text : String)
  | regex (text : String)
  | word (name : String)
  | called (name : String)
  | mark (mark : String)
  | lineEnd
  deriving BEq

/-- A token with the line that it is on. -/
structure Placed where
  token : Token
  line : Nat

/-- What is wrong with a program, and where. -/
structure Fault where
  place : String
  message : String

/-- The words for a line of a program. -/
def lineWords (line : Nat) : String :=
  s!"line {line}"

/-- The words that have a meaning of their own. -/
def keywords : List String :=
  ["BEGIN", "END", "break", "continue", "delete", "do", "else", "exit", "for", "func", "function",
    "getline", "if", "in", "next", "print", "printf", "return", "while"]

/-- The functions that there are in every program. -/
def builtins : List String :=
  ["length", "substr", "index", "split", "sub", "gsub", "match", "sprintf", "sin", "cos", "atan2",
    "exp", "log", "sqrt", "int", "rand", "srand", "tolower", "toupper", "system", "close", "fflush",
    "systime"]

/-- The marks, the longer ones first. -/
def marks : List String :=
  ["&&", "||", "++", "--", "+=", "-=", "*=", "/=", "%=", "^=", "==", "<=", ">=", "!=", ">>",
    "!~", "\x7b", "\x7d", "(", ")", "[", "]", ";", ",", "+", "-", "*", "/", "%", "^", "!",
    ">", "<", "|", "?", ":", "~", "$", "="]

/-- Whether a division may follow a token. -/
def endsValue : Option Token → Bool
  | some (.number _) | some (.text _) | some (.regex _) => true
  | some (.word name) => !keywords.contains name
  | some (.mark mark) => [")", "]", "$", "++", "--"].contains mark
  | _ => false

/-- The character that a letter stands for after a backslash. -/
def escaped? : Char → Option Char
  | 'n' => some '\n'
  | 't' => some '\t'
  | 'r' => some '\r'
  | 'a' => some '\x07'
  | 'b' => some '\x08'
  | 'f' => some '\x0c'
  | 'v' => some '\x0b'
  | '"' => some '"'
  | '/' => some '/'
  | '\\' => some '\\'
  | _ => none

/-- Characters with their escapes resolved. A backslash before any other character stays. -/
def unescaped : Nat → List Char → List Char
  | 0, _ | _, [] => []
  | fuel + 1, '\\' :: '\n' :: rest => unescaped fuel rest
  | fuel + 1, '\\' :: c :: rest =>
    let digits := ((c :: rest).take 3).takeWhile fun c => '0' ≤ c && c ≤ '7'
    if !digits.isEmpty then
      Char.ofNat (FloatText.digitsValue 8 digits % 256) ::
        unescaped fuel ((c :: rest).drop digits.length)
    else
      match escaped? c with
      | some meant => meant :: unescaped fuel rest
      | none => '\\' :: c :: unescaped fuel rest
  | fuel + 1, c :: rest => c :: unescaped fuel rest

/-- A text with its escapes resolved. -/
def resolved (text : String) : String :=
  String.ofList (unescaped (text.length + 1) text.toList)

/-- The characters up to one that ends them, where a backslash keeps the next one, and those behind.
A line feed ends them too early. -/
def takeQuoted (ending : Char) : Nat → List Char → List Char → Option (List Char × List Char)
  | 0, _, _ => none
  | fuel + 1, chars, done =>
    match chars with
    | '\\' :: c :: rest => takeQuoted ending fuel rest (c :: '\\' :: done)
    | c :: rest =>
      if c == ending then some (done.reverse, rest)
      else if c == '\n' then none
      else takeQuoted ending fuel rest (c :: done)
    | [] => none

/-- The characters of an expression up to the slash that ends it. A slash in a set does not. -/
def takeSlashed : Nat → Bool → List Char → List Char → Option (List Char × List Char)
  | 0, _, _, _ => none
  | fuel + 1, inSet, chars, done =>
    match chars with
    | '\\' :: '/' :: rest => takeSlashed fuel inSet rest ('/' :: done)
    | '\\' :: c :: rest => takeSlashed fuel inSet rest (c :: '\\' :: done)
    | '[' :: ']' :: rest =>
      if inSet then takeSlashed fuel inSet (']' :: rest) ('[' :: done)
      else takeSlashed fuel true rest (']' :: '[' :: done)
    | '[' :: '^' :: ']' :: rest =>
      if inSet then takeSlashed fuel inSet ('^' :: ']' :: rest) ('[' :: done)
      else takeSlashed fuel true rest (']' :: '^' :: '[' :: done)
    | c :: rest =>
      if c == '/' && !inSet then some (done.reverse, rest)
      else if c == '\n' then none
      else
        let inSet := if c == '[' then true else if c == ']' then false else inSet
        takeSlashed fuel inSet rest (c :: done)
    | [] => none

/-- The tokens of characters, the last one first. -/
def tokensOf : Nat → Nat → List Char → List Placed → Except Fault (List Placed × Nat)
  | 0, line, _, done => return (done, line)
  | _, line, [], done => return (done, line)
  | fuel + 1, line, c :: rest, done => do
    let chars := c :: rest
    let add (token : Token) : List Placed := ⟨token, line⟩ :: done
    if c == '\n' then tokensOf fuel (line + 1) rest (add .lineEnd)
    else if c == ' ' || c == '\t' || c == '\r' then tokensOf fuel line rest done
    else if c == '\\' && rest.head? == some '\n' then tokensOf fuel (line + 1) (rest.drop 1) done
    else if c == '#' then tokensOf fuel line (rest.dropWhile (· != '\n')) done
    else if c == '"' then
      match takeQuoted '"' (rest.length + 1) rest [] with
      | some (inside, rest) =>
        tokensOf fuel line rest (add (.text (resolved (String.ofList inside))))
      | none =>
        let shown := String.ofList (chars.takeWhile (· != '\n'))
        throw ⟨lineWords line, s!"runaway string constant {shown} ..."⟩
    else if c == '/' && !endsValue (done.head?.map (·.token)) then
      match takeSlashed (rest.length + 1) false rest [] with
      | some (inside, rest) => tokensOf fuel line rest (add (.regex (String.ofList inside)))
      | none =>
        let shown := String.ofList (chars.takeWhile (· != '\n'))
        throw ⟨lineWords line, s!"runaway regular expression {shown} ..."⟩
    else if c.isDigit || (c == '.' && (rest.head?.any (·.isDigit))) then
      let goesOn := rest.head?.any fun c => c.isDigit || c == '.' || c == 'e'
      let decimal := if c == '0' && !goesOn then
          ['0'] ++ (if rest.isEmpty then [] else ' ' :: rest)
        else chars
      match FloatText.read? decimal with
      | some reading =>
        tokensOf fuel line reading.rest (add (.number (Number.ofBinary reading.value)))
      | none => tokensOf fuel line rest done
    else if c.isAlpha || c == '_' then
      let name := chars.takeWhile fun c => c.isAlphanum || c == '_'
      let rest := chars.drop name.length
      let name := String.ofList name
      let isCalled := rest.head? == some '(' && !keywords.contains name && !builtins.contains name
      tokensOf fuel line rest (add (if isCalled then .called name else .word name))
    else
      match marks.find? fun mark => mark.toList.isPrefixOf chars with
      | some mark => tokensOf fuel line (chars.drop mark.length) (add (.mark mark))
      | none => throw ⟨toString line, s!"unexpected character '{c}'"⟩

/-! ## Readers -/

/-- What is left of the tokens, and the line that the program ends on. -/
structure ReadState where
  rest : List Placed
  last : Nat

/-- Readers of programs. -/
abbrev Reader := StateT ReadState (Except Fault)

/-- The next token. -/
def peek : Reader (Option Token) :=
  return (← get).rest.head?.map (·.token)

/-- Drops a token. -/
def drop : Reader Unit :=
  modify fun state => { state with rest := state.rest.drop 1 }

/-- A token as messages show it. -/
def Token.shown : Token → String
  | .number value => Number.text value
  | .text value => value
  | .regex value => s!"/{value}/"
  | .word name | .called name => name
  | .mark value => value
  | .lineEnd => "end of line"

/-- Fails at the present token. -/
def fail {α : Type} (isMissing? : Option String := none) : Reader α := do
  let state ← get
  let place := match state.rest with
    | next :: _ => (next.line, next.token.shown)
    | [] => (state.last + 1, "end of file")
  match isMissing? with
  | some mark => throw ⟨lineWords place.1, s!"missing {mark} near {place.2}"⟩
  | none => throw ⟨lineWords place.1, s!"syntax error at or near {place.2}"⟩

/-- Takes a mark if it is next. -/
def takes (mark : String) : Reader Bool := do
  if (← peek) == some (.mark mark) then
    drop
    return true
  else return false

/-- Takes a word if it is next. -/
def takesWord (word : String) : Reader Bool := do
  if (← peek) == some (.word word) then
    drop
    return true
  else return false

/-- Takes a mark that must be next. -/
def demand (mark : String) : Reader Unit := do
  if !(← takes mark) then
    fail (if mark == ")" || mark == "\x7d" then some mark else none)

/-- Takes a name that must be next. -/
def takeName : Reader String := do
  match ← peek with
  | some (.word name) | some (.called name) =>
    if keywords.contains name then fail
    drop
    return name
  | _ => fail

/-- Drops line ends. -/
def skipLines : Nat → Reader Unit
  | 0 => return ()
  | fuel + 1 => do
    if (← peek) == some .lineEnd then
      drop
      skipLines fuel

/-- Drops line ends and semicolons. -/
def skipEnds : Nat → Reader Unit
  | 0 => return ()
  | fuel + 1 => do
    match ← peek with
    | some .lineEnd | some (.mark ";") =>
      drop
      skipEnds fuel
    | _ => return ()

/-- Drops the line ends that are next. -/
def skipNewLines : Reader Unit := do
  skipLines ((← get).rest.length + 1)

/-- How expressions in slashes are written. -/
def regexStyle : Regex.Style :=
  { isExtended := true, escape? := fun c => if c == 'b' then none else escaped? c
    escapesInSets := true }

/-- The expression that a text writes. -/
def readRegex (text : String) : Except String Regex :=
  match Regex.read regexStyle text with
  | .ok regex => .ok regex
  | .error fault =>
    let cause := match fault with
      | .unmatchedGroup => " (missing ')')"
      | .unmatchedSet => " (missing ']')"
      | .invalidRepetition => " (missing operand)"
      | _ => ""
    .error s!"regular expression compile failed{cause}\n{text}"

/-! ## Expressions -/

/-- Where an expression stands: whether a greater-than sign and the word "in" belong to what is
around it. -/
structure Place where
  isPrinted : Bool := false
  isHeader : Bool := false

/-- Whether an expression can be changed. -/
def Expr.isTarget : Expr → Bool
  | .named _ | .field _ | .element .. => true
  | _ => false

/-- Whether a token can start an expression that is joined to the one before it. -/
def startsJoined : Option Token → Bool
  | some (.number _) | some (.text _) | some (.regex _) | some (.called _) => true
  | some (.word name) => !keywords.contains name
  | some (.mark mark) => ["$", "!", "(", "-", "+", "++", "--"].contains mark
  | _ => false

/-- The operation of an assignment. -/
def assignment? : Token → Option (Option Operation)
  | .mark "=" => some none
  | .mark "+=" => some (some .add)
  | .mark "-=" => some (some .subtract)
  | .mark "*=" => some (some .multiply)
  | .mark "/=" => some (some .divide)
  | .mark "%=" => some (some .remainder)
  | .mark "^=" => some (some .power)
  | _ => none

/-- The comparison that a token writes. -/
def comparison? (place : Place) : Token → Option Comparison
  | .mark "<" => some .less
  | .mark "<=" => some .atMost
  | .mark "==" => some .equal
  | .mark "!=" => some .different
  | .mark ">" => if place.isPrinted then none else some .greater
  | .mark ">=" => some .atLeast
  | _ => none

mutual

/-- Reads an expression. -/
def readExpr (place : Place) (fuel : Nat) : Reader Expr :=
  match fuel with
  | 0 => fail
  | fuel + 1 => do
    let left ← readChoice place fuel
    match (← peek).bind assignment? with
    | some operation? =>
      if !left.isTarget then fail
      drop
      skipNewLines
      return .assign left operation? (← readExpr place fuel)
    | none => return left

/-- Reads a choice between two expressions. -/
def readChoice (place : Place) (fuel : Nat) : Reader Expr :=
  match fuel with
  | 0 => fail
  | fuel + 1 => do
    let test ← readEither place fuel
    if ← takes "?" then
      skipNewLines
      let first ← readExpr place fuel
      skipNewLines
      demand ":"
      skipNewLines
      return .choice test first (← readExpr place fuel)
    else return test

/-- Reads expressions of which one must hold. -/
def readEither (place : Place) (fuel : Nat) : Reader Expr :=
  match fuel with
  | 0 => fail
  | fuel + 1 => do
    let first ← readBoth place fuel
    if ← takes "||" then
      skipNewLines
      return .either first (← readEither place fuel)
    else return first

/-- Reads expressions that must both hold. -/
def readBoth (place : Place) (fuel : Nat) : Reader Expr :=
  match fuel with
  | 0 => fail
  | fuel + 1 => do
    let first ← readContains place fuel
    if ← takes "&&" then
      skipNewLines
      return .both first (← readBoth place fuel)
    else return first

/-- Reads whether a table has a member. -/
def readContains (place : Place) (fuel : Nat) : Reader Expr :=
  match fuel with
  | 0 => fail
  | fuel + 1 => do
    let first ← readMatching place fuel
    moreContains place fuel first

/-- Reads more tests of tables. -/
def moreContains (place : Place) (fuel : Nat) (first : Expr) : Reader Expr :=
  match fuel with
  | 0 => fail
  | fuel + 1 => do
    if !place.isHeader && (← peek) == some (.word "in") then
      drop
      let table ← takeName
      let keys := match first with
        | .several keys => keys
        | key => [key]
      moreContains place fuel (.contains keys table)
    else return first

/-- Reads whether a text matches. -/
def readMatching (place : Place) (fuel : Nat) : Reader Expr :=
  match fuel with
  | 0 => fail
  | fuel + 1 => do
    let first ← readCompared place fuel
    moreMatching place fuel first

/-- Reads more matches. -/
def moreMatching (place : Place) (fuel : Nat) (first : Expr) : Reader Expr :=
  match fuel with
  | 0 => fail
  | fuel + 1 => do
    if ← takes "~" then
      moreMatching place fuel (.matching false first (← readCompared place fuel))
    else if ← takes "!~" then
      moreMatching place fuel (.matching true first (← readCompared place fuel))
    else return first

/-- Reads a comparison. -/
def readCompared (place : Place) (fuel : Nat) : Reader Expr :=
  match fuel with
  | 0 => fail
  | fuel + 1 => do
    let first ← readPiped place fuel (← readJoined place fuel)
    match (← peek).bind (comparison? place) with
    | some comparison =>
      drop
      let second ← readPiped place fuel (← readJoined place fuel)
      return .compare comparison first second
    | none => return first

/-- Reads lines that a command writes. -/
def readPiped (place : Place) (fuel : Nat) (first : Expr) : Reader Expr :=
  match fuel with
  | 0 => fail
  | fuel + 1 => do
    match (← get).rest with
    | ⟨.mark "|", _⟩ :: ⟨.word "getline", _⟩ :: rest =>
      modify fun state => { state with rest := rest }
      let target? ← readTarget fuel
      readPiped place fuel (.lineOfCommand first target?)
    | _ => return first

/-- Reads what a line is put into, if it is told. -/
def readTarget (fuel : Nat) : Reader (Option Expr) :=
  match fuel with
  | 0 => fail
  | fuel + 1 => do
    match ← peek with
    | some (.mark "$") => return some (← readPrimary {} fuel)
    | some (.word name) =>
      if keywords.contains name || builtins.contains name then return none
      else return some (← readPrimary {} fuel)
    | _ => return none

/-- Reads texts that are joined. -/
def readJoined (place : Place) (fuel : Nat) : Reader Expr :=
  match fuel with
  | 0 => fail
  | fuel + 1 => do
    let first ← readSum place fuel
    moreJoined place fuel first

/-- Reads more texts that are joined. -/
def moreJoined (place : Place) (fuel : Nat) (first : Expr) : Reader Expr :=
  match fuel with
  | 0 => fail
  | fuel + 1 => do
    let next ← peek
    if startsJoined next && next != some (.word "in") then
      moreJoined place fuel (.join first (← readSum place fuel))
    else return first

/-- Reads a sum. -/
def readSum (place : Place) (fuel : Nat) : Reader Expr :=
  match fuel with
  | 0 => fail
  | fuel + 1 => do
    let first ← readProduct place fuel
    moreSum place fuel first

/-- Reads more terms of a sum. -/
def moreSum (place : Place) (fuel : Nat) (first : Expr) : Reader Expr :=
  match fuel with
  | 0 => fail
  | fuel + 1 => do
    if ← takes "+" then moreSum place fuel (.binary .add first (← readProduct place fuel))
    else if ← takes "-" then
      moreSum place fuel (.binary .subtract first (← readProduct place fuel))
    else return first

/-- Reads a product. -/
def readProduct (place : Place) (fuel : Nat) : Reader Expr :=
  match fuel with
  | 0 => fail
  | fuel + 1 => do
    let first ← readSigned place fuel
    moreProduct place fuel first

/-- Reads more factors of a product. -/
def moreProduct (place : Place) (fuel : Nat) (first : Expr) : Reader Expr :=
  match fuel with
  | 0 => fail
  | fuel + 1 => do
    let more (operation : Operation) : Reader Expr := do
      let second ← readSigned place fuel
      moreProduct place fuel (.binary operation first second)
    if ← takes "*" then more .multiply
    else if ← takes "/" then more .divide
    else if ← takes "%" then more .remainder
    else return first

/-- Reads an expression with a sign in front. -/
def readSigned (place : Place) (fuel : Nat) : Reader Expr :=
  match fuel with
  | 0 => fail
  | fuel + 1 => do
    if ← takes "!" then return .opposite (← readSigned place fuel)
    else if ← takes "-" then return .sign true (← readSigned place fuel)
    else if ← takes "+" then return .sign false (← readSigned place fuel)
    else readPower place fuel

/-- Reads a power. Powers bind to the right. -/
def readPower (place : Place) (fuel : Nat) : Reader Expr :=
  match fuel with
  | 0 => fail
  | fuel + 1 => do
    let base ← readStepped place fuel
    match ← peek with
    | some (.mark "^") =>
      drop
      let exponent ← match ← peek with
        | some (.mark "-") | some (.mark "+") | some (.mark "!") => readSigned place fuel
        | _ => readPower place fuel
      return .binary .power base exponent
    | _ => return base

/-- Reads an expression that is counted up or down. -/
def readStepped (place : Place) (fuel : Nat) : Reader Expr :=
  match fuel with
  | 0 => fail
  | fuel + 1 => do
    let before (isUp : Bool) : Reader Expr := do
      let target ← readPrimary place fuel
      if !target.isTarget then fail
      return .step target true isUp
    if ← takes "++" then before true
    else if ← takes "--" then before false
    else
      let target ← readPrimary place fuel
      if !target.isTarget then return target
      else if ← takes "++" then return .step target false true
      else if ← takes "--" then return .step target false false
      else return target

/-- Reads expressions between commas. -/
def readSeveral (place : Place) (fuel : Nat) : Reader (List Expr) :=
  match fuel with
  | 0 => fail
  | fuel + 1 => do
    let first ← readExpr place fuel
    if ← takes "," then
      skipNewLines
      return first :: (← readSeveral place fuel)
    else return [first]

/-- Reads arguments in parentheses. -/
def readArguments (fuel : Nat) : Reader (List Expr) :=
  match fuel with
  | 0 => fail
  | fuel + 1 => do
    demand "("
    if ← takes ")" then return []
    let arguments ← readSeveral {} fuel
    demand ")"
    return arguments

/-- Reads an expression that needs no parentheses. -/
def readPrimary (place : Place) (fuel : Nat) : Reader Expr :=
  match fuel with
  | 0 => fail
  | fuel + 1 => do
    match ← peek with
    | some (.number value) =>
      drop
      return .number value
    | some (.text text) =>
      drop
      return .text text
    | some (.regex text) =>
      let line := ((← get).rest.head?.map (·.line)).getD 0
      drop
      match readRegex text with
      | .ok regex => return .regex regex
      | .error message => throw ⟨lineWords line, message⟩
    | some (.mark "$") =>
      drop
      if ← takes "++" then return .field (.step (← readPrimary place fuel) true true)
      else if ← takes "--" then return .field (.step (← readPrimary place fuel) true false)
      else if ← takes "-" then return .field (.sign true (← readPrimary place fuel))
      else return .field (← readPrimary place fuel)
    | some (.mark "(") =>
      drop
      let members ← readSeveral {} fuel
      demand ")"
      match members with
      | [member] => return .several [member]
      | members =>
        if (← peek) == some (.word "in") || place.isPrinted then return .several members
        else fail
    | some (.called name) =>
      drop
      return .call name (← readArguments fuel)
    | some (.word "getline") =>
      drop
      let target? ← readTarget fuel
      if ← takes "<" then return .lineOfFile (← readPrimary {} fuel) target?
      else return .nextLine target?
    | some (.word name) =>
      if keywords.contains name then fail
      drop
      if builtins.contains name then
        if (← peek) == some (.mark "(") then return .builtin name (← readArguments fuel)
        else if name == "length" then return .builtin name []
        else fail
      else if ← takes "[" then
        let keys ← readSeveral {} fuel
        demand "]"
        return .element name keys
      else return .named name
    | _ => fail

end

/-! ## Statements -/

/-- Takes the end of a simple statement. -/
def endStatement : Reader Unit := do
  match ← peek with
  | some .lineEnd | some (.mark ";") => drop
  | some (.mark "\x7d") => return ()
  | none => return ()
  | _ => fail

/-- The values that are written. Those in parentheses count one by one. -/
def writtenValues : List Expr → List Expr
  | [.several members] => members
  | values => values

/-- Reads where a statement writes. -/
def readRedirection (fuel : Nat) : Reader Redirection := do
  if ← takes ">" then return .file (← readExpr {} fuel)
  else if ← takes ">>" then return .append (← readExpr {} fuel)
  else if ← takes "|" then return .command (← readExpr {} fuel)
  else return .none

/-- Reads what a statement writes, and where. -/
def readWritten (fuel : Nat) : Reader (List Expr × Redirection) := do
  let isEmpty := match ← peek with
    | none | some .lineEnd => true
    | some (.mark mark) => [";", "\x7d", ">", ">>", "|"].contains mark
    | _ => false
  let values ← if isEmpty then pure [] else readSeveral { isPrinted := true } fuel
  return (writtenValues values, ← readRedirection fuel)

mutual

/-- Reads a statement. -/
def readStatement (fuel : Nat) : Reader Statement :=
  match fuel with
  | 0 => fail
  | fuel + 1 => do
    match ← peek with
    | some (.mark "\x7b") =>
      let body ← readBlock fuel
      return body
    | some (.mark ";") =>
      drop
      return .nothing
    | some (.word "if") =>
      drop
      demand "("
      let test ← readExpr {} fuel
      demand ")"
      skipNewLines
      let first ← readStatement fuel
      let state ← get
      skipEnds (state.rest.length + 1)
      if ← takesWord "else" then
        skipNewLines
        return .choice test first (← readStatement fuel)
      else
        set state
        return .choice test first .nothing
    | some (.word "while") =>
      drop
      demand "("
      let test ← readExpr {} fuel
      demand ")"
      if ← takes ";" then return .loop test .nothing
      skipNewLines
      return .loop test (← readStatement fuel)
    | some (.word "do") =>
      drop
      skipNewLines
      let body ← readStatement fuel
      skipEnds ((← get).rest.length + 1)
      if !(← takesWord "while") then fail
      demand "("
      let test ← readExpr {} fuel
      demand ")"
      endStatement
      return .loopAfter body test
    | some (.word "for") =>
      drop
      demand "("
      readFor fuel
    | _ =>
      let statement ← readSimple fuel
      endStatement
      return statement

/-- Reads what follows the opening parenthesis of a counted loop. -/
def readFor (fuel : Nat) : Reader Statement :=
  match fuel with
  | 0 => fail
  | fuel + 1 => do
    match (← get).rest with
    | ⟨.word name, _⟩ :: ⟨.word "in", _⟩ :: ⟨.word table, _⟩ :: ⟨.mark ")", _⟩ :: rest =>
      modify fun state => { state with rest := rest }
      skipNewLines
      return .each name table (← readStatement fuel)
    | _ =>
      let start ← if (← peek) == some (.mark ";") then pure Statement.nothing
        else readSimple fuel
      demand ";"
      skipNewLines
      let test? ← if (← peek) == some (.mark ";") then pure none
        else some <$> readExpr {} fuel
      demand ";"
      skipNewLines
      let next ← if (← peek) == some (.mark ")") then pure Statement.nothing
        else readSimple fuel
      demand ")"
      if ← takes ";" then return .count start test? next .nothing
      skipNewLines
      return .count start test? next (← readStatement fuel)

/-- Reads a statement that holds no other one. -/
def readSimple (fuel : Nat) : Reader Statement :=
  match fuel with
  | 0 => fail
  | fuel + 1 => do
    let value? : Reader (Option Expr) := do
      match ← peek with
      | none | some .lineEnd | some (.mark ";") | some (.mark "\x7d") => return none
      | _ => return some (← readExpr {} fuel)
    match ← peek with
    | some (.word "print") =>
      drop
      let (values, redirection) ← readWritten fuel
      return .print values redirection
    | some (.word "printf") =>
      drop
      let (values, redirection) ← readWritten fuel
      if values.isEmpty then fail
      return .format values redirection
    | some (.word "next") =>
      drop
      return .nextRecord
    | some (.word "exit") =>
      drop
      return .exit (← value?)
    | some (.word "break") =>
      drop
      return .leave
    | some (.word "continue") =>
      drop
      return .skip
    | some (.word "return") =>
      drop
      return .answer (← value?)
    | some (.word "delete") =>
      drop
      let table ← takeName
      if ← takes "[" then
        let keys ← readSeveral {} fuel
        demand "]"
        return .delete table keys
      else return .delete table []
    | _ => return .expression (← readExpr {} fuel)

/-- Reads statements in braces. -/
def readBlock (fuel : Nat) : Reader Statement :=
  match fuel with
  | 0 => fail
  | fuel + 1 => do
    demand "\x7b"
    return .block (← readBody fuel [])

/-- Reads statements up to a closing brace. -/
def readBody (fuel : Nat) (done : List Statement) : Reader (List Statement) :=
  match fuel with
  | 0 => fail
  | fuel + 1 => do
    skipEnds ((← get).rest.length + 1)
    if ← takes "\x7d" then return done.reverse
    else if (← peek).isNone then fail (some "\x7d")
    else readBody fuel ((← readStatement fuel) :: done)

end

/-! ## Programs -/

/-- Reads the names of parameters. -/
def readParameters : Nat → Reader (List String)
  | 0 => fail
  | fuel + 1 => do
    if ← takes ")" then return []
    let name ← takeName
    if ← takes "," then
      skipNewLines
      return name :: (← readParameters fuel)
    else
      demand ")"
      return [name]

/-- Reads the rules and functions of a program. -/
def readItems (fuel : Nat) : Nat → Script → Reader Script
  | 0, script => return script
  | count + 1, script => do
    skipEnds ((← get).rest.length + 1)
    let rule (pattern : Pattern) : Reader Script := do
      let action? ← if (← peek) == some (.mark "\x7b") then some <$> readBlock fuel else pure none
      return { script with rules := script.rules ++ [⟨pattern, action?⟩] }
    let next ← match ← peek with
      | none => return script
      | some (.word "BEGIN") =>
        drop
        rule .begin
      | some (.word "END") =>
        drop
        rule .finish
      | some (.word "function") | some (.word "func") =>
        drop
        let name ← takeName
        demand "("
        let parameters ← readParameters ((← get).rest.length + 1)
        skipNewLines
        let body ← readBlock fuel
        pure { script with functions := script.functions ++ [⟨name, parameters, body⟩] }
      | some (.mark "\x7b") => rule .always
      | _ =>
        let first ← readExpr {} fuel
        if ← takes "," then
          skipNewLines
          rule (.range first (← readExpr {} fuel))
        else rule (.single first)
    readItems fuel count next

/-- The program that a text writes. -/
def readScript (text : String) : Except Fault Script := do
  let chars := text.toList
  let (found, last) ← tokensOf (chars.length + 1) 1 chars []
  let size := 40 * found.length + 100
  let start : ReadState := { rest := found.reverse, last := last }
  return (← (readItems size (found.length + 1) ⟨[], []⟩).run start).1

end EventHooks.Utility.Scanner
