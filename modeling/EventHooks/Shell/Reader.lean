import EventHooks.Shell.Syntax

/-!
# Reading shell commands

Commands are read one line at a time: what stands on the lines before a fault is still run.
Reserved words count only where a command may start. Nested constructs are bounded by a measure
that the length of the text provides.
-/
namespace EventHooks.Shell

/-! ## Characters -/

/-- Whether a character starts a name. -/
def isNameStart (c : Char) : Bool :=
  c.isAlpha || c == '_'

/-- Whether a character continues a name. -/
def isNameChar (c : Char) : Bool :=
  c.isAlphanum || c == '_'

/-- Whether characters make a name. -/
def isName (chars : List Char) : Bool :=
  match chars with
  | [] => false
  | c :: rest => isNameStart c && rest.all isNameChar

/-- Whether a character ends a word. -/
def endsWord (c : Char) : Bool :=
  [' ', '\t', '\n', ';', '&', '|', '<', '>', '(', ')'].contains c

/-- The parameters whose name is one character that is no letter. -/
def isSpecial (c : Char) : Bool :=
  ['@', '*', '#', '?', '-', '$', '!'].contains c || c.isDigit

/-- The reserved words. -/
def reserved : List String :=
  ["!", "\x7b", "\x7d", "case", "do", "done", "elif", "else", "esac", "fi", "for", "if", "in",
    "then", "until", "while"]

/-! ## Tokens -/

/-- A token. -/
inductive Token
  | done
  | newline
  | operator (symbol : String)
  | redirection (redirection : Redirection)
  | word (word : Word)

/-- What is left to be read, with the token that was read ahead. `documentLines` counts the lines of
documents that have been taken out behind the present line. An alias that is `active` stands for
itself as long as at least so many characters are left as its number tells. -/
structure Source where
  rest : List Char
  line : Nat := 1
  ahead : Option Token := none
  documentLines : Nat := 0
  aliases : List (String × String) := []
  active : List (String × Nat) := []

/-- Readers of a source. A fault comes with its line. -/
abbrev Reader := StateT Source (Except (SyntaxFault × Nat))

/-- Fails at the present line. -/
def fail {α : Type} (fault : SyntaxFault) : Reader α := do
  throw (fault, (← get).line)

/-- The reserved word that a token is. -/
def Token.reserved? : Token → Option String
  | .word [.literal text] => if reserved.contains text then some text else none
  | _ => none

/-- The name of a token in messages. -/
def Token.shown (token : Token) : String :=
  match token with
  | .done => "end of file"
  | .newline => "newline"
  | .operator symbol => s!"\"{symbol}\""
  | .redirection _ => "redirection"
  | .word _ =>
    match token.reserved? with
    | some keyword => s!"\"{keyword}\""
    | none => "word"

/-- The name of a token where no word is reserved. -/
def Token.shownPlain (token : Token) : String :=
  match token with
  | .word _ => "word"
  | token => token.shown

/-- Fails at a token where no word is reserved. -/
def unexpectedPlain {α : Type} (token : Token) (expected : Option String) : Reader α :=
  fail (.unexpected token.shownPlain expected)

/-- Fails at a token. -/
def unexpected {α : Type} (token : Token) (expected : Option String := none) : Reader α :=
  fail (.unexpected token.shown expected)

/-- Leaves out blanks, escaped line ends and a comment. -/
def skipBlanks : List Char → Nat → List Char × Nat
  | ' ' :: rest, line | '\t' :: rest, line => skipBlanks rest line
  | '\\' :: '\n' :: rest, line => skipBlanks rest (line + 1)
  | '#' :: rest, line => (rest.dropWhile (· != '\n'), line)
  | chars, line => (chars, line)

/-- Takes in the next characters. -/
def advance (count : Nat) : Reader Unit :=
  modify fun source =>
    { source with
      rest := source.rest.drop count
      line := source.line + (source.rest.take count).count '\n' }

/-- Takes in the characters up to the first one that fails a test. -/
def takeRun (holds : Char → Bool) : Reader String := do
  let run := (← get).rest.takeWhile holds
  advance run.length
  return String.ofList run

/-- The operators, the longer ones first. -/
def operators : List String := ["&&", "||", ";;", "&", "|", ";", "(", ")"]

/-- The operator at the start of characters. -/
def operator? (chars : List Char) : Option String :=
  operators.find? fun operator => operator.toList.isPrefixOf chars

/-- The redirection operators, the longer ones first. -/
def redirectionOperators : List String := ["<<-", "<<", "<&", "<>", "<", ">>", ">&", ">|", ">"]

/-- The descriptor and the operator of a redirection. One digit may stand before the operator. -/
def redirectionOperator? (chars : List Char) : Option (Option Nat × String) :=
  let find (chars : List Char) :=
    redirectionOperators.find? fun operator => operator.toList.isPrefixOf chars
  match chars with
  | digit :: rest =>
    if digit.isDigit then (find rest).map (some (digit.toNat - '0'.toNat), ·)
    else (find chars).map (none, ·)
  | [] => none

/-! ## Documents in the text -/

/-- Cuts characters after the first line feed. -/
def cutLine (chars : List Char) : List Char × List Char :=
  (chars.takeWhile (· != '\n'), (chars.dropWhile (· != '\n')).drop 1)

/-- Cuts characters after the first line feed, which a backslash before it may join to the next
line. There is nothing behind it if there is none. -/
def cutJoined (joins : Bool) : List Char → List Char → List Char × Option (List Char)
  | taken, [] => (taken.reverse, none)
  | taken, '\n' :: rest => (taken.reverse, some rest)
  | taken, '\\' :: '\n' :: rest =>
    if joins then cutJoined joins ('\n' :: '\\' :: taken) rest
    else (('\\' :: taken).reverse, some rest)
  | taken, '\\' :: '\\' :: rest => cutJoined joins ('\\' :: '\\' :: taken) rest
  | taken, c :: rest => cutJoined joins (c :: taken) rest

/-- Takes the lines up to a closing line. In a document with expansions lines may be joined. -/
def takeDocument (closing : List Char) (dropsTabs joins : Bool) :
    Nat → List Char → List Char → List Char × List Char
  | 0, chars, taken => (taken, chars)
  | fuel + 1, chars, taken =>
    if chars.isEmpty then (taken, [])
    else
      let (line, rest?) := cutJoined joins [] chars
      let line := if dropsTabs then line.dropWhile (· == '\t') else line
      if line == closing then (taken, rest?.getD [])
      else
        match rest? with
        | some rest =>
          takeDocument closing dropsTabs joins fuel rest (taken ++ line ++ ['\n'])
        | none => (taken ++ line, [])

/-- Whether a part of a word is quoted. -/
def Part.isQuotedText : Part → Bool
  | .quoted _ => true
  | _ => false

/-- Whether a part stands for all arguments, each a field of its own. -/
def Part.isArguments : Part → Bool
  | .parameter "@" .value _ => true
  | _ => false

/-- The parts of a text in double quotes. It makes a field even if nothing is in it, unless it is
just all arguments. -/
def inQuotes (parts : Word) : Word :=
  if parts.length != 1 && parts.all Part.isArguments then .quoted "" :: parts else parts

/-- The text of a word that has no expansions. -/
def plainText (word : Word) : String :=
  String.join (word.map fun
    | .literal text | .quoted text => text
    | _ => "")

/-! ## Words -/

/-- Where a text in double quotes ends: at the quote, at the brace that closes a parameter, at the
parentheses that close an arithmetic expansion, or nowhere. -/
inductive QuotedEnd
  | quote
  | brace
  | parentheses (depth : Nat)
  | nowhere
  deriving DecidableEq

/-- Whether a character may be escaped in a quoted text. -/
def QuotedEnd.escapes (ending : QuotedEnd) (c : Char) : Bool :=
  ['$', '`', '\\', '\n'].contains c ||
    match ending with
    | .quote => c == '"'
    | .brace => c == '"' || c == '\x7d'
    | _ => false

/-- Whether a character means something in a quoted text. -/
def QuotedEnd.isActive (ending : QuotedEnd) (c : Char) : Bool :=
  ['$', '`', '\\'].contains c ||
    match ending with
    | .quote => c == '"'
    | .brace => c == '"' || c == '\x7d'
    | .parentheses _ => c == '(' || c == ')'
    | .nowhere => false

/-- The text between backquotes: a backslash escapes a dollar sign, a backquote and itself. -/
def takeBackquoted (isQuoted : Bool) : List Char → List Char → Option (List Char × List Char)
  | [], _ => none
  | '`' :: rest, taken => some (taken.reverse, rest)
  | '\\' :: c :: rest, taken =>
    if ['$', '`', '\\'].contains c || (isQuoted && c == '"') then
      takeBackquoted isQuoted rest (c :: taken)
    else takeBackquoted isQuoted rest (c :: '\\' :: taken)
  | c :: rest, taken => takeBackquoted isQuoted rest (c :: taken)

/-- The form that follows the name of a parameter, with how many characters it takes. -/
def formStart? (chars : List Char) : Option (Nat × (Word → ParameterForm)) :=
  match chars with
  | ':' :: '-' :: _ => some (2, .default true)
  | ':' :: '=' :: _ => some (2, .assign true)
  | ':' :: '?' :: _ => some (2, .demand true)
  | ':' :: '+' :: _ => some (2, .alternative true)
  | '-' :: _ => some (1, .default false)
  | '=' :: _ => some (1, .assign false)
  | '?' :: _ => some (1, .demand false)
  | '+' :: _ => some (1, .alternative false)
  | '%' :: '%' :: _ => some (2, .trimEnd true)
  | '%' :: _ => some (1, .trimEnd false)
  | '#' :: '#' :: _ => some (2, .trimStart true)
  | '#' :: _ => some (1, .trimStart false)
  | _ => none

/-- Whether the word of a form is a pattern. -/
def isTrim (chars : List Char) : Bool :=
  match chars with
  | '%' :: _ | '#' :: _ => true
  | _ => false

/-- The name at the start of characters. -/
def parameterName (chars : List Char) : List Char :=
  match chars with
  | c :: _ =>
    if isNameStart c then chars.takeWhile isNameChar
    else if c.isDigit then chars.takeWhile (·.isDigit)
    else if isSpecial c then [c]
    else []
  | [] => []

/-- The simple command that makes a word an assignment, if it is one. -/
def assignment? (word : Word) : Option (String × Word) :=
  match word with
  | .literal text :: rest =>
    let name := text.toList.takeWhile (· != '=')
    match text.toList.dropWhile (· != '=') with
    | _ :: value =>
      if isName name then
        some (String.ofList name,
          if value.isEmpty then rest else .literal (String.ofList value) :: rest)
      else none
    | [] => none
  | _ => none

/-- Whether the next word follows the text of an alias that ends with a blank. -/
def Source.followsBlank (source : Source) : Bool :=
  let endsBlank (name : String) : Bool :=
    ((source.aliases.find? (·.1 == name)).bind (·.2.toList.getLast?)).any fun c =>
      c == ' ' || c == '\t'
  let left := (skipBlanks source.rest source.line).1.length
  source.active.any fun (name, count) =>
    left ≤ count && count ≤ source.rest.length && endsBlank name

/-- Puts a token back. -/
def putBack (token : Token) : Reader Unit :=
  modify fun source => { source with ahead := some token }

/-- Whether a token ends a list of commands. -/
def Token.endsList (token : Token) : Bool :=
  match token with
  | .done => true
  | .operator symbol => symbol == ")" || symbol == ";;"
  | _ =>
    match token.reserved? with
    | some keyword => ["do", "done", "elif", "else", "esac", "fi", "then", "\x7d"].contains keyword
    | none => false

/-! ## The grammar -/

mutual

/-- Reads the rest of a word. In braces a word ends at the closing one. -/
def wordParts (fuel : Nat) (inBraces : Bool) (parts : List Part) : Reader Word :=
  match fuel with
  | 0 => fail .unterminatedQuote
  | fuel + 1 => do
    let source ← get
    match source.rest with
    | [] => if inBraces then fail .missingBrace else return parts.reverse
    | '\\' :: '\n' :: _ =>
      advance 2
      wordParts fuel inBraces parts
    | '\\' :: c :: _ =>
      advance 2
      wordParts fuel inBraces (.quoted (String.singleton c) :: parts)
    | '\'' :: rest =>
      advance 1
      let text ← takeRun (· != '\'')
      if text.length == rest.length then fail .unterminatedQuote
      else
        advance 1
        wordParts fuel inBraces (.quoted text :: parts)
    | '"' :: _ =>
      advance 1
      let inner ← quotedParts fuel .quote []
      advance 1
      wordParts fuel inBraces ((inQuotes inner).reverse ++ parts)
    | '$' :: _ => do
      let part ← dollar fuel false
      wordParts fuel inBraces (part :: parts)
    | '`' :: _ => do
      let part ← backquoted fuel false
      wordParts fuel inBraces (part :: parts)
    | c :: _ =>
      if inBraces && c == '\x7d' then return parts.reverse
      else if !inBraces && endsWord c then return parts.reverse
      else
        let isActive (c : Char) := ['\\', '\'', '"', '$', '`'].contains c
        let text ← takeRun fun c =>
          !isActive c && if inBraces then c != '\x7d' else !endsWord c
        if text.isEmpty then
          advance 1
          wordParts fuel inBraces (.literal (String.singleton c) :: parts)
        else wordParts fuel inBraces (.literal text :: parts)

/-- Reads a text in double quotes up to its end. -/
def quotedParts (fuel : Nat) (ending : QuotedEnd) (parts : List Part) : Reader Word :=
  match fuel with
  | 0 => fail .unterminatedQuote
  | fuel + 1 => do
    let source ← get
    match source.rest with
    | [] =>
      match ending with
      | .quote => fail .unterminatedQuote
      | .brace => fail .missingBrace
      | .parentheses _ => fail .missingParentheses
      | .nowhere => return parts.reverse
    | '\\' :: '\n' :: _ =>
      advance 2
      quotedParts fuel ending parts
    | '\\' :: c :: _ =>
      advance 2
      let text := if ending.escapes c then String.singleton c else String.ofList ['\\', c]
      quotedParts fuel ending (.quoted text :: parts)
    | '$' :: _ => do
      let part ← dollar fuel true
      quotedParts fuel ending (part :: parts)
    | '`' :: _ => do
      let part ← backquoted fuel true
      quotedParts fuel ending (part :: parts)
    | c :: rest =>
      if ending.isActive c then
        match ending, c with
        | .brace, '"' =>
          advance 1
          quotedParts fuel ending parts
        | .parentheses depth, '(' =>
          advance 1
          quotedParts fuel (.parentheses (depth + 1)) (.quoted "(" :: parts)
        | .parentheses (depth + 1), ')' =>
          advance 1
          quotedParts fuel (.parentheses depth) (.quoted ")" :: parts)
        | .parentheses 0, ')' =>
          if rest.head? = some ')' then return parts.reverse else fail .missingParentheses
        | _, '\\' =>
          advance 1
          quotedParts fuel ending (.quoted "\\" :: parts)
        | _, _ => return parts.reverse
      else
        let text ← takeRun (!ending.isActive ·)
        quotedParts fuel ending (.quoted text :: parts)

/-- Reads what a dollar sign starts. -/
def dollar (fuel : Nat) (isQuoted : Bool) : Reader Part :=
  match fuel with
  | 0 => fail .unterminatedQuote
  | fuel + 1 => do
    advance 1
    let source ← get
    match source.rest with
    | '(' :: '(' :: _ =>
      advance 2
      let parts ← quotedParts fuel (.parentheses 0) []
      advance 2
      return .arithmetic parts isQuoted
    | '(' :: _ =>
      advance 1
      let body ← commandList fuel
      let closing ← token fuel
      match closing with
      | .operator ")" => return .substitution body isQuoted
      | other => unexpected other (some "\")\"")
    | '\x7b' :: _ =>
      advance 1
      braced fuel isQuoted
    | rest =>
      let name := match rest with
        | c :: _ => if c.isDigit then [c] else parameterName rest
        | [] => []
      if name.isEmpty then
        return if isQuoted then .quoted "$" else .literal "$"
      else
        advance name.length
        return .parameter (String.ofList name) .value isQuoted

/-- Reads a parameter in braces. A form that is none is kept as a parameter without a name. -/
def braced (fuel : Nat) (isQuoted : Bool) : Reader Part :=
  match fuel with
  | 0 => fail .missingBrace
  | fuel + 1 => do
    let source ← get
    match source.rest with
    | '#' :: c :: rest =>
      let name := parameterName (c :: rest)
      match name, (c :: rest).drop name.length with
      | _ :: _, '\x7d' :: _ =>
        advance (name.length + 2)
        return .parameter (String.ofList name) .length isQuoted
      | _, _ => bracedForm fuel isQuoted ['#']
    | rest => bracedForm fuel isQuoted (parameterName rest)

/-- Reads the form of a parameter up to the closing brace. -/
def bracedForm (fuel : Nat) (isQuoted : Bool) (name : List Char) : Reader Part :=
  match fuel with
  | 0 => fail .missingBrace
  | fuel + 1 => do
    advance name.length
    let source ← get
    match source.rest, formStart? source.rest with
    | '\x7d' :: _, _ =>
      advance 1
      return .parameter (String.ofList name) .value isQuoted
    | rest, some (count, form) =>
      advance count
      let word ← if isQuoted && !isTrim rest then quotedParts fuel .brace []
        else wordParts fuel true []
      advance 1
      return .parameter (String.ofList name) (form word) isQuoted
    | _, none =>
      let _ ← wordParts fuel true []
      advance 1
      return .parameter "" .value isQuoted

/-- Reads a substitution in backquotes. -/
def backquoted (fuel : Nat) (isQuoted : Bool) : Reader Part :=
  match fuel with
  | 0 => fail .unterminatedBackquote
  | fuel + 1 => do
    advance 1
    let source ← get
    match takeBackquoted isQuoted source.rest [] with
    | none =>
      advance source.rest.length
      fail .unterminatedBackquote
    | some (inner, rest) =>
      set { source with rest := inner }
      let body ← commandList fuel
      let closing ← token fuel
      match closing with
      | .done =>
        set { source with rest := rest }
        return .substitution body isQuoted
      | other => unexpected other

/-- Reads the next token. -/
def token (fuel : Nat) : Reader Token :=
  match fuel with
  | 0 => return .done
  | fuel + 1 => do
    let source ← get
    match source.ahead with
    | some token =>
      set { source with ahead := none }
      return token
    | none =>
      let (rest, line) := skipBlanks source.rest source.line
      set { source with rest := rest, line := line }
      match rest, redirectionOperator? rest, operator? rest with
      | [], _, _ => return .done
      | '\n' :: rest, _, _ =>
        set { source with
          rest := rest, line := line + 1 + source.documentLines, documentLines := 0 }
        return .newline
      | _, some (descriptor, operator), _ =>
        advance (operator.length + if descriptor.isSome then 1 else 0)
        redirection fuel descriptor operator
      | _, _, some operator =>
        advance operator.length
        return .operator operator
      | _, none, none =>
        let parts ← wordParts fuel false []
        return .word parts

/-- Reads the word of a redirection. -/
def redirection (fuel : Nat) (descriptor : Option Nat) (operator : String) : Reader Token :=
  match fuel with
  | 0 => return .done
  | fuel + 1 => do
    let target ← token fuel
    match target with
    | .word word =>
      match operator with
      | "<" => return .redirection (.input (descriptor.getD 0) word)
      | "<>" => return .redirection (.readWrite (descriptor.getD 0) word)
      | ">>" => return .redirection (.append (descriptor.getD 1) word)
      | "<&" => return .redirection (.duplicate (descriptor.getD 0) word)
      | ">&" => return .redirection (.duplicate (descriptor.getD 1) word)
      | "<<" | "<<-" =>
        let source ← get
        let (line, before) := cutLine source.rest
        let isPlain := word.any Part.isQuotedText
        let (content, rest) := takeDocument (plainText word).toList (operator == "<<-") (!isPlain)
          (before.length + 1) before []
        let taken := (before.take (before.length - rest.length)).count '\n'
        let after := { source with
          rest := line ++ '\n' :: rest, documentLines := source.documentLines + taken }
        if isPlain then
          set after
          return .redirection (.document (descriptor.getD 0) [.quoted (String.ofList content)])
        else
          set { source with
            rest := content, line := source.line + 1 + source.documentLines }
          let parts ← quotedParts fuel .nowhere []
          set after
          return .redirection (.document (descriptor.getD 0) parts)
      | _ => return .redirection (.output (descriptor.getD 1) word (operator == ">|"))
    | other => unexpected other

/-- Reads a token where a command may start: an alias is replaced by what it stands for, with the
word after it if that ends with a blank. -/
def commandToken (fuel : Nat) : Reader Token :=
  match fuel with
  | 0 => return .done
  | fuel + 1 => do
    let next ← token fuel
    let source ← get
    match next with
    | .word [.literal name] =>
      if next.reserved?.isSome || source.aliases.isEmpty then return next
      else
        let left := source.rest.length
        let active := source.active.filter (·.2 ≤ left)
        match source.aliases.find? (·.1 == name) with
        | some (_, text) =>
          if active.any (·.1 == name) then return next
          else
            set { source with rest := text.toList ++ source.rest, active := (name, left) :: active }
            commandToken fuel
        | none => return next
    | _ => return next

/-- Reads the next token after line feeds. -/
def tokenAfterLines (fuel : Nat) : Reader Token :=
  match fuel with
  | 0 => return .done
  | fuel + 1 => do
    let next ← token fuel
    match next with
    | .newline => tokenAfterLines fuel
    | other => return other

/-- Reads a list of commands up to the token that ends it. -/
def commandList (fuel : Nat) : Reader (Option Command) :=
  match fuel with
  | 0 => return none
  | fuel + 1 => do
    let next ← tokenAfterLines fuel
    putBack next
    if next.endsList then return none
    else
      let first ← andOr fuel
      some <$> moreCommands fuel first

/-- Reads the commands that follow the first one of a list. -/
def moreCommands (fuel : Nat) (first : Command) : Reader Command :=
  match fuel with
  | 0 => return first
  | fuel + 1 => do
    let separator ← token fuel
    let first := match separator with
      | .operator "&" => .background first
      | _ => first
    match separator with
    | .operator "&" | .operator ";" | .newline =>
      let next ← tokenAfterLines fuel
      putBack next
      if next.endsList then return first
      else
        let second ← andOr fuel
        let more ← moreCommands fuel second
        return .sequence first more
    | other =>
      putBack other
      return first

/-- Reads the list that a keyword opens. It may not be empty, but for the end of the text, which the
closing word will miss. -/
def filledList (fuel : Nat) : Reader Command :=
  match fuel with
  | 0 => unexpected .done
  | fuel + 1 => do
    let body ← commandList fuel
    match body with
    | some command => return command
    | none =>
      let next ← token fuel
      match next with
      | .done =>
        putBack next
        return default
      | other => unexpected other

/-- Reads pipelines joined by conjunctions. -/
def andOr (fuel : Nat) : Reader Command :=
  match fuel with
  | 0 => unexpected .done
  | fuel + 1 => do
    let first ← pipeline fuel
    moreAndOr fuel first

/-- Reads the pipelines that follow the first one. -/
def moreAndOr (fuel : Nat) (first : Command) : Reader Command :=
  match fuel with
  | 0 => return first
  | fuel + 1 => do
    let next ← token fuel
    match next with
    | .operator "&&" =>
      let second ← pipelineAfterLines fuel
      moreAndOr fuel (.both first second)
    | .operator "||" =>
      let second ← pipelineAfterLines fuel
      moreAndOr fuel (.either first second)
    | other =>
      putBack other
      return first

/-- Reads a pipeline after line feeds. -/
def pipelineAfterLines (fuel : Nat) : Reader Command :=
  match fuel with
  | 0 => unexpected .done
  | fuel + 1 => do
    let next ← tokenAfterLines fuel
    putBack next
    pipeline fuel

/-- Reads a pipeline. -/
def pipeline (fuel : Nat) : Reader Command :=
  match fuel with
  | 0 => unexpected .done
  | fuel + 1 => do
    let next ← commandToken fuel
    let isNegated := next.reserved? = some "!"
    if !isNegated then putBack next
    let first ← command fuel
    let stages ← moreStages fuel
    let body := if stages.isEmpty then first else .pipeline (first :: stages)
    return if isNegated then .negation body else body

/-- Reads the commands of a pipeline after the first one. -/
def moreStages (fuel : Nat) : Reader (List Command) :=
  match fuel with
  | 0 => return []
  | fuel + 1 => do
    let next ← token fuel
    match next with
    | .operator "|" =>
      let following ← tokenAfterLines fuel
      putBack following
      let stage ← command fuel
      let stages ← moreStages fuel
      return stage :: stages
    | other =>
      putBack other
      return []

/-- Reads a command. -/
def command (fuel : Nat) : Reader Command :=
  match fuel with
  | 0 => unexpected .done
  | fuel + 1 => do
    let line := (← get).line
    let next ← commandToken fuel
    match next, next.reserved? with
    | .operator "(", _ =>
      let body ← filledList fuel
      closeWith fuel line ")" (.subshell line body)
    | _, some "\x7b" =>
      let body ← filledList fuel
      closeWith fuel line "\x7d" body
    | _, some "if" =>
      let branches ← conditional fuel
      closeWith fuel line "fi" branches
    | _, some "while" =>
      let test ← filledList fuel
      expectWord fuel "do"
      let body ← filledList fuel
      closeWith fuel line "done" (.loop false test body)
    | _, some "until" =>
      let test ← filledList fuel
      expectWord fuel "do"
      let body ← filledList fuel
      closeWith fuel line "done" (.loop true test body)
    | _, some "for" => iteration fuel line
    | _, some "case" =>
      let subject ← token fuel
      match subject with
      | .word subject =>
        expectWord fuel "in"
        let branches ← caseBranches fuel
        redirectedBy fuel line (.selection line subject branches)
      | other => unexpected other (some "word")
    | _, some _ => unexpected next
    | .word _, none | .redirection _, none =>
      putBack next
      let line := (← get).line
      simpleCommand fuel line [] [] []
    | _, none => unexpected next

/-- Reads the closing token of a compound command and the redirections after it. -/
def closeWith (fuel line : Nat) (closing : String) (body : Command) : Reader Command :=
  match fuel with
  | 0 => unexpected .done
  | fuel + 1 => do
    let next ← token fuel
    let isClosing := match next with
      | .operator symbol => symbol == closing
      | _ => next.reserved? == some closing
    if isClosing then redirectedBy fuel line body
    else unexpected next (some s!"\"{closing}\"")

/-- Reads a reserved word. -/
def expectWord (fuel : Nat) (word : String) : Reader Unit :=
  match fuel with
  | 0 => unexpected .done
  | fuel + 1 => do
    let next ← tokenAfterLines fuel
    if next.reserved? = some word then return () else unexpected next (some s!"\"{word}\"")

/-- Reads the redirections after a compound command. -/
def redirectedBy (fuel line : Nat) (body : Command) : Reader Command :=
  match fuel with
  | 0 => return body
  | fuel + 1 => do
    let redirections ← moreRedirections fuel
    return if redirections.isEmpty then body else .redirected line body redirections

/-- Reads redirections. -/
def moreRedirections (fuel : Nat) : Reader (List Redirection) :=
  match fuel with
  | 0 => return []
  | fuel + 1 => do
    let next ← token fuel
    match next with
    | .redirection redirection =>
      let more ← moreRedirections fuel
      return redirection :: more
    | other =>
      putBack other
      return []

/-- Reads the branches of a conditional. -/
def conditional (fuel : Nat) : Reader Command :=
  match fuel with
  | 0 => unexpected .done
  | fuel + 1 => do
    let test ← filledList fuel
    expectWord fuel "then"
    let yes ← filledList fuel
    let next ← token fuel
    match next.reserved? with
    | some "elif" =>
      let no ← conditional fuel
      return .conditional test yes (some no)
    | some "else" =>
      let no ← filledList fuel
      return .conditional test yes (some no)
    | _ =>
      putBack next
      return .conditional test yes none

/-- Reads an iteration after its keyword. -/
def iteration (fuel line : Nat) : Reader Command :=
  match fuel with
  | 0 => unexpected .done
  | fuel + 1 => do
    let named ← token fuel
    match named with
    | .word [.literal name] =>
      if !isName name.toList then fail .badLoopVariable
      else
        let next ← tokenAfterLines fuel
        let words ← if next.reserved? = some "in" then some <$> iterationWords fuel
          else match next with
            | .operator ";" => pure none
            | other => do
              putBack other
              pure none
        expectWord fuel "do"
        let body ← filledList fuel
        closeWith fuel line "done" (.iteration line name words body)
    | _ => fail .badLoopVariable

/-- Reads the words of an iteration up to the end of the line. -/
def iterationWords (fuel : Nat) : Reader (List Word) :=
  match fuel with
  | 0 => return []
  | fuel + 1 => do
    let next ← token fuel
    match next with
    | .word word =>
      let words ← iterationWords fuel
      return word :: words
    | .newline | .operator ";" => return []
    | other => unexpected other

/-- Reads the branches of a selection. -/
def caseBranches (fuel : Nat) : Reader (List (List Word × Option Command)) :=
  match fuel with
  | 0 => unexpected .done
  | fuel + 1 => do
    let next ← tokenAfterLines fuel
    if next.reserved? = some "esac" then return []
    else
      match next with
      | .operator "(" => pure ()
      | other => putBack other
      let patterns ← casePatterns fuel
      let body ← commandList fuel
      let closing ← token fuel
      match closing with
      | .operator ";;" =>
        let branches ← caseBranches fuel
        return (patterns, body) :: branches
      | other =>
        if other.reserved? = some "esac" then return [(patterns, body)]
        else unexpected other (some "\";;\"")

/-- Reads the patterns of a branch. -/
def casePatterns (fuel : Nat) : Reader (List Word) :=
  match fuel with
  | 0 => unexpected .done
  | fuel + 1 => do
    let next ← token fuel
    let pattern := match next with
      | .word pattern => pattern
      | _ => []
    let separator ← token fuel
    match separator with
    | .operator "|" =>
      let patterns ← casePatterns fuel
      return pattern :: patterns
    | .operator ")" => return [pattern]
    | other => unexpectedPlain other (some "\")\"")

/-- Reads a simple command, or the definition of a function. -/
def simpleCommand (fuel line : Nat) (assignments : List (String × Word)) (words : List Word)
    (redirections : List Redirection) : Reader Command :=
  match fuel with
  | 0 => return .simple line assignments.reverse words.reverse redirections.reverse
  | fuel + 1 => do
    let source ← get
    let next ← if words.isEmpty || source.followsBlank then commandToken fuel else token fuel
    match next with
    | .word word =>
      match words, assignment? word with
      | [], some assignment =>
        simpleCommand fuel line (assignment :: assignments) words redirections
      | _, _ => simpleCommand fuel line assignments (word :: words) redirections
    | .redirection redirection =>
      simpleCommand fuel line assignments words (redirection :: redirections)
    | .operator "(" =>
      match assignments, words, redirections with
      | [], [[.literal name]], [] =>
        let closing ← token fuel
        match closing with
        | .operator ")" =>
          if !isName name.toList || specialBuiltins.contains name then fail .badFunctionName
          else
            let following ← tokenAfterLines fuel
            putBack following
            let body ← command fuel
            return .definition name body
        | other => unexpectedPlain other (some "\")\"")
      | _, _, _ => unexpected next
    | other =>
      putBack other
      return .simple line assignments.reverse words.reverse redirections.reverse

end

/-! ## Lines of commands -/

/-- Reads what follows a command on its line. -/
def moreOnLine (fuel : Nat) (first : Command) : Reader (Option Command) :=
  match fuel with
  | 0 => return some first
  | fuel + 1 => do
    let separator ← token fuel
    let first := match separator with
      | .operator "&" => .background first
      | _ => first
    match separator with
    | .operator "&" | .operator ";" =>
      let next ← token fuel
      match next with
      | .newline | .done => return some first
      | other =>
        putBack other
        let second ← andOr fuel
        let rest ← moreOnLine fuel second
        return rest.map (.sequence first ·)
    | .newline | .done => return some first
    | other => unexpected other

/-- Reads the commands up to the end of a line. -/
def commandLine (fuel : Nat) : Reader (Option Command) := do
  let first ← andOr fuel
  moreOnLine fuel first

/-- What a line holds: commands, nothing, or the end of the text. -/
inductive Line
  | commands (command : Command) (rest : Source)
  | blank (rest : Source)
  | done
  | fault (fault : SyntaxFault) (line : Nat)

/-- The measure that the length of a text provides. -/
def Source.fuel (source : Source) : Nat :=
  16 * source.rest.length + 64

/-- Reads one line of commands. -/
def Source.nextLine (source : Source) : Line :=
  let read : Reader (Option Command × Bool) := do
    let first ← token source.fuel
    match first with
    | .done => return (none, true)
    | .newline => return (none, false)
    | other =>
      putBack other
      let command ← commandLine source.fuel
      return (command, false)
  match read.run source with
  | .error (fault, line) => .fault fault line
  | .ok ((_, true), _) => .done
  | .ok ((some command, _), rest) => .commands command rest
  | .ok ((none, _), rest) => .blank rest

/-- The parts of a text that is read as if it stood between double quotes. -/
def quotedWord (text : String) : Word :=
  let source : Source := { rest := text.toList }
  match (quotedParts source.fuel .nowhere []).run source with
  | .ok (parts, _) => parts
  | .error _ => [.quoted text]

end EventHooks.Shell
