import EventHooks.Text.CharClass

/-!
# Regular expressions

Expressions come in a basic and an extended notation. Of all matches the leftmost one counts, and of
those that start there the longest.
-/
namespace EventHooks

/-- A member of a set of characters: a range, or a class. -/
inductive SetMember
  | range (low high : Char)
  | named (name : String)
  deriving DecidableEq, Repr

/-- A regular expression. -/
inductive Regex
  | empty
  | char (c : Char)
  | any
  | set (isNegated : Bool) (members : List SetMember)
  | lineStart
  | lineEnd
  | wordStart
  | wordEnd
  | wordEdge
  | noWordEdge
  | noWordBefore
  | noWordAfter
  | group (number : Nat) (inner : Regex)
  | sequence (first second : Regex)
  | either (first second : Regex)
  | repeated (inner : Regex) (least : Nat) (most? : Option Nat)
  | earlier (number : Nat)
  deriving Repr

namespace Regex

/-! ## Matching -/

/-- The places that groups match: the number of a group, where it starts and where it ends. -/
abbrev Captures := List (Nat × Nat × Nat)

/-- A text to match, and whether the case of letters does not count. -/
structure Subject where
  chars : Array Char
  ignoresCase : Bool := false

/-- Whether a character belongs to words. -/
def isWordChar (c : Char) : Bool :=
  c.isAlphanum || c == '_'

/-- Whether there is a character of a word at a place. -/
def Subject.isWordAt (subject : Subject) (place : Nat) : Bool :=
  (subject.chars[place]?).any isWordChar

/-- Whether there is a character of a word before a place. -/
def Subject.isWordBefore (subject : Subject) (place : Nat) : Bool :=
  0 < place && subject.isWordAt (place - 1)

/-- Whether a character belongs to a member of a set. -/
def SetMember.holds (member : SetMember) (c : Char) : Bool :=
  match member with
  | .range low high => low ≤ c && c ≤ high
  | .named name => ((CharClass.named? name).map (· c)).getD false

/-- Whether a character belongs to a set. -/
def setHolds (ignoresCase isNegated : Bool) (members : List SetMember) (c : Char) : Bool :=
  let found := members.any (SetMember.holds · c) ||
    (ignoresCase && (members.any (SetMember.holds · c.toLower) ||
      members.any (SetMember.holds · c.toUpper)))
  found != isNegated

/-- The ends of matches without those at a place at which there is one before. -/
def distinctEnds (ends : List (Nat × Captures)) : List (Nat × Captures) :=
  (ends.foldl (fun done found =>
    if done.any (·.1 == found.1) then done else found :: done) []).reverse

/-- The ends of repetitions, the later rounds first. `frontier` are the ends of the present round.
-/
def rounds (step : Nat → Captures → List (Nat × Captures)) :
    Nat → Nat → Option Nat → List (Nat × Captures) → List (Nat × Captures) → List (Nat × Captures)
  | 0, _, _, _, done => done
  | fuel + 1, least, most?, frontier, done =>
    if frontier.isEmpty then done
    else
      let fresh := if least = 0 then frontier.filter fun found => !done.any (·.1 == found.1)
        else frontier
      let done := if least = 0 then fresh ++ done else done
      if most? == some 0 then done
      else
        let next := distinctEnds (fresh.flatMap fun (place, captures) => step place captures)
        rounds step fuel (least - 1) (most?.map (· - 1)) next done

/-- The ends of the matches of an expression at a place, the preferred ones first. -/
def ends (subject : Subject) : Regex → Nat → Captures → List (Nat × Captures)
  | .empty, place, captures => [(place, captures)]
  | .char c, place, captures =>
    match subject.chars[place]? with
    | some found =>
      if found == c || (subject.ignoresCase && found.toLower == c.toLower) then
        [(place + 1, captures)]
      else []
    | none => []
  | .any, place, captures => if place < subject.chars.size then [(place + 1, captures)] else []
  | .set isNegated members, place, captures =>
    match subject.chars[place]? with
    | some found =>
      if setHolds subject.ignoresCase isNegated members found then [(place + 1, captures)] else []
    | none => []
  | .lineStart, place, captures => if place = 0 then [(place, captures)] else []
  | .lineEnd, place, captures => if place = subject.chars.size then [(place, captures)] else []
  | .wordStart, place, captures =>
    if !subject.isWordBefore place && subject.isWordAt place then [(place, captures)] else []
  | .wordEnd, place, captures =>
    if subject.isWordBefore place && !subject.isWordAt place then [(place, captures)] else []
  | .wordEdge, place, captures =>
    if subject.isWordBefore place != subject.isWordAt place then [(place, captures)] else []
  | .noWordEdge, place, captures =>
    if subject.isWordBefore place == subject.isWordAt place then [(place, captures)] else []
  | .noWordBefore, place, captures => if subject.isWordBefore place then [] else [(place, captures)]
  | .noWordAfter, place, captures => if subject.isWordAt place then [] else [(place, captures)]
  | .group number inner, place, captures =>
    (inner.ends subject place captures).map fun (stop, captures) =>
      (stop, (number, place, stop) :: captures.filter (·.1 != number))
  | .sequence first second, place, captures =>
    distinctEnds ((first.ends subject place captures).flatMap fun (middle, captures) =>
      second.ends subject middle captures)
  | .either first second, place, captures =>
    distinctEnds (first.ends subject place captures ++ second.ends subject place captures)
  | .repeated inner least most?, place, captures =>
    rounds (fun place captures => inner.ends subject place captures)
      (subject.chars.size + least + 2) least most? [(place, captures)] []
  | .earlier number, place, captures =>
    match captures.find? (·.1 == number) with
    | none => []
    | some (_, start, stop) =>
      let wanted := subject.chars.extract start stop
      let found := subject.chars.extract place (place + wanted.size)
      let isSame := if subject.ignoresCase then
          found.map Char.toLower == wanted.map Char.toLower
        else found == wanted
      if isSame then [(place + wanted.size, captures)] else []

/-- A match: where it starts and ends, and what its groups match. -/
structure Match where
  start : Nat
  stop : Nat
  captures : Captures

/-- The longest match at a place. -/
def matchAt? (regex : Regex) (subject : Subject) (place : Nat) : Option Match :=
  (regex.ends subject place []).foldl (fun (best? : Option Match) (stop, captures) =>
    if best?.all (·.stop < stop) then some ⟨place, stop, captures⟩ else best?) none

/-- The first match from a place on. -/
def find? (regex : Regex) (subject : Subject) : Nat → Nat → Option Match
  | 0, _ => none
  | fuel + 1, place =>
    if subject.chars.size < place then none
    else
      match regex.matchAt? subject place with
      | some found => some found
      | none => regex.find? subject fuel (place + 1)

/-- The first match from a place on. -/
def search? (regex : Regex) (subject : Subject) (place : Nat := 0) : Option Match :=
  regex.find? subject (subject.chars.size + 2) place

/-- Whether an expression matches somewhere. -/
def hasMatch (regex : Regex) (ignoresCase : Bool) (text : String) : Bool :=
  (regex.search? ⟨text.toList.toArray, ignoresCase⟩).isSome

/-- What a group matches. -/
def Match.group? (found : Match) (number : Nat) : Option (Nat × Nat) :=
  if number = 0 then some (found.start, found.stop)
  else (found.captures.find? (·.1 == number)).map (·.2)

/-! ## Reading -/

/-- How expressions are written: whether parentheses and the like have a meaning without a
backslash, which characters a backslash and a letter stand for, whether they do so in sets too, and
whether a star behind a repetition is a fault. -/
structure Style where
  isExtended : Bool
  escape? : Char → Option Char := fun _ => none
  escapesInSets : Bool := false
  repeatsOnce : Bool := false

/-- Why a text is no expression. -/
inductive Fault
  | unmatchedGroup
  | unmatchedClosing
  | unmatchedSet
  | unmatchedBound
  | invalidBound
  | invalidRange
  | invalidClass
  | invalidReference
  | invalidRepetition
  | trailingBackslash
  deriving DecidableEq, Repr

/-- The words for a fault. -/
def Fault.message : Fault → String
  | .unmatchedGroup => "Unmatched ( or \\("
  | .unmatchedClosing => "Unmatched ) or \\)"
  | .unmatchedSet => "Unmatched [, [^, [:, [., or [="
  | .unmatchedBound => "Unmatched \x7b or \\\x7b"
  | .invalidBound => "Invalid content of \\\x7b\\\x7d"
  | .invalidRange => "Invalid range end"
  | .invalidClass => "Invalid character class name"
  | .invalidReference => "Invalid back reference"
  | .invalidRepetition => "Invalid preceding regular expression"
  | .trailingBackslash => "Trailing backslash"

/-- What is left of a text that is read, and how many groups there were and how many of them are not
closed. -/
structure ReadState where
  rest : List Char
  groups : Nat := 0
  pending : Nat := 0

/-- Readers of expressions. -/
abbrev Reader := StateT ReadState (Except Fault)

/-- Goes on behind some characters. -/
def goOn (rest : List Char) : Reader Unit :=
  modify fun state => { state with rest := rest }

/-! ### Sets -/

/-- Reads a character of a set. -/
def readMemberChar (style : Style) : Reader Char := do
  match (← get).rest with
  | '[' :: '.' :: c :: '.' :: ']' :: rest =>
    goOn rest
    return c
  | '\\' :: c :: rest =>
    match style.escape? c, style.escapesInSets with
    | some meant, true =>
      goOn rest
      return meant
    | none, true =>
      goOn rest
      return c
    | _, false =>
      match style.escape? c with
      | some meant =>
        goOn rest
        return meant
      | none =>
        goOn (c :: rest)
        return '\\'
  | c :: rest =>
    goOn rest
    return c
  | [] => throw .unmatchedSet

/-- Reads the members of a set up to its closing bracket. -/
def readMembers (style : Style) : Nat → Bool → List SetMember → Reader (List SetMember)
  | 0, _, _ => throw .unmatchedSet
  | fuel + 1, isFirst, members => do
    match (← get).rest, isFirst with
    | ']' :: rest, false =>
      goOn rest
      return members.reverse
    | '[' :: ':' :: more, _ =>
      let name := more.takeWhile (· != ':')
      match more.drop name.length with
      | ':' :: ']' :: rest =>
        if (CharClass.named? (String.ofList name)).isNone then throw .invalidClass
        goOn rest
        readMembers style fuel false (.named (String.ofList name) :: members)
      | _ => throw .unmatchedSet
    | '[' :: '=' :: c :: '=' :: ']' :: rest, _ =>
      goOn rest
      readMembers style fuel false (.range c c :: members)
    | _, _ =>
      let low ← readMemberChar style
      match (← get).rest with
      | '-' :: c :: rest =>
        if c == ']' then readMembers style fuel false (.range low low :: members)
        else
          goOn (c :: rest)
          let high ← readMemberChar style
          if high < low then throw .invalidRange
          readMembers style fuel false (.range low high :: members)
      | _ => readMembers style fuel false (.range low low :: members)

/-- Reads a set behind its opening bracket. -/
def readSet (style : Style) : Reader Regex := do
  let rest := (← get).rest
  let isNegated := rest.head? == some '^'
  if isNegated then goOn (rest.drop 1)
  return .set isNegated (← readMembers style (rest.length + 1) true [])

/-! ### Tokens -/

/-- A token of an expression. -/
inductive Token
  | expression (regex : Regex)
  | star
  | plus
  | question
  | opening
  | closing
  | bar
  | bound
  | set
  | caret
  | dollar
  | trailing
  | over

/-- The token behind a backslash. -/
def escapedToken (style : Style) (c : Char) : Token :=
  let member (isNegated : Bool) (members : List SetMember) : Token :=
    .expression (.set isNegated members)
  let word : List SetMember := [.named "alnum", .range '_' '_']
  match style.escape? c with
  | some meant => .expression (.char meant)
  | none =>
    match style.isExtended, c with
    | false, '(' => .opening
    | false, ')' => .closing
    | false, '{' => .bound
    | false, '|' => .bar
    | false, '+' => .plus
    | false, '?' => .question
    | _, '<' => .expression .wordStart
    | _, '>' => .expression .wordEnd
    | _, 'b' => .expression .wordEdge
    | _, 'B' => .expression .noWordEdge
    | _, 'w' => member false word
    | _, 'W' => member true word
    | _, 's' => member false [.named "space"]
    | _, 'S' => member true [.named "space"]
    | _, '\'' => .expression .lineEnd
    | _, c =>
      if '1' ≤ c && c ≤ '9' then .expression (.earlier (c.toNat - '0'.toNat))
      else if c == '\x60' then .expression .lineStart
      else .expression (.char c)

/-- The next token, and what follows. -/
def nextToken (style : Style) : List Char → Token × List Char
  | [] => (.over, [])
  | ['\\'] => (.trailing, [])
  | '\\' :: c :: rest => (escapedToken style c, rest)
  | c :: rest =>
    let token : Token :=
      match style.isExtended, c with
      | true, '(' => .opening
      | true, ')' => .closing
      | true, '|' => .bar
      | true, '+' => .plus
      | true, '?' => .question
      | true, '{' => .bound
      | _, '[' => .set
      | _, '.' => .expression .any
      | _, '*' => .star
      | _, '^' => .caret
      | _, '$' => .dollar
      | _, c => .expression (.char c)
    (token, rest)

/-- The bounds of a repetition behind their opening brace: the least and the most, and what
follows. -/
def bounds? (style : Style) (rest : List Char) : Except Fault (Nat × Option Nat × List Char) :=
  let number (digits : List Char) : Nat :=
    digits.foldl (fun value c => value * 10 + (c.toNat - '0'.toNat)) 0
  let least := rest.takeWhile (·.isDigit)
  let afterLeast := rest.drop least.length
  let (most?, afterMost) : Option Nat × List Char := match afterLeast with
    | ',' :: more =>
      let most := more.takeWhile (·.isDigit)
      (if most.isEmpty then none else some (number most), more.drop most.length)
    | more => (some (number least), more)
  let closed? := match style.isExtended, afterMost with
    | true, '}' :: rest => some rest
    | false, '\\' :: '}' :: rest => some rest
    | _, _ => none
  match closed? with
  | none => .error (if afterMost.isEmpty then .unmatchedBound else .invalidBound)
  | some rest =>
    if least.isEmpty && afterLeast.head? != some ',' then .error .invalidBound
    else if most?.any (· < number least) then .error .invalidBound
    else .ok (number least, most?, rest)

/-! ### Expressions -/

/-- Reads the repetitions behind an expression. `isRepeated` tells that there was one. -/
def readRepetitions (style : Style) : Nat → Bool → Regex → Reader Regex
  | 0, _, regex => return regex
  | fuel + 1, isRepeated, regex => do
    let (token, rest) := nextToken style (← get).rest
    let repeated (least : Nat) (most? : Option Nat) (rest : List Char) : Reader Regex := do
      goOn rest
      readRepetitions style fuel true (.repeated regex least most?)
    let isFault := isRepeated && style.repeatsOnce && !style.isExtended
    match token with
    | .star => if isFault then throw .invalidRepetition else repeated 0 none rest
    | .plus => repeated 1 none rest
    | .question => repeated 0 (some 1) rest
    | .bound =>
      if isFault then throw .invalidRepetition
      match bounds? style rest with
      | .ok (least, most?, rest) => repeated least most? rest
      | .error fault => if style.isExtended then return regex else throw fault
    | _ => return regex

/-- Whether a dollar sign stands at the end of a line, which is the end of an expression, of a group
or of an alternative. -/
def isLineEnd (style : Style) (rest : List Char) : Bool :=
  style.isExtended ||
    match (nextToken style rest).1 with
    | .over | .closing | .bar => true
    | _ => false

mutual

/-- Reads alternatives. -/
def readAlternatives (style : Style) (fuel : Nat) : Reader Regex :=
  match fuel with
  | 0 => return .empty
  | fuel + 1 => do
    let first ← readSequence style fuel true
    let (token, rest) := nextToken style (← get).rest
    match token with
    | .bar =>
      goOn rest
      return .either first (← readAlternatives style fuel)
    | _ => return first

/-- Reads expressions that follow one another. `isStart` tells that there is none yet. -/
def readSequence (style : Style) (fuel : Nat) (isStart : Bool) : Reader Regex :=
  match fuel with
  | 0 => return .empty
  | fuel + 1 => do
    let state ← get
    let (token, rest) := nextToken style state.rest
    let single (regex : Regex) : Reader Regex := do
      let first ← readRepetitions style state.rest.length false regex
      return .sequence first (← readSequence style fuel false)
    let literal (c : Char) : Reader Regex := do
      goOn rest
      single (.char c)
    match token with
    | .over | .bar => return .empty
    | .trailing => throw .trailingBackslash
    | .closing =>
      if state.pending = 0 then throw .unmatchedClosing
      else return .empty
    | .expression (.earlier number) =>
      if state.groups < number then throw .invalidReference
      goOn rest
      single (.earlier number)
    | .expression regex =>
      goOn rest
      single regex
    | .set =>
      goOn rest
      single (← readSet style)
    | .caret =>
      if style.isExtended then
        goOn rest
        single .lineStart
      else if isStart then
        goOn (if rest.head? == some '^' then '\\' :: rest else rest)
        return .sequence .lineStart (← readSequence style fuel true)
      else literal '^'
    | .dollar =>
      if isLineEnd style rest then
        goOn rest
        single .lineEnd
      else literal '$'
    | .star =>
      if isStart && style.isExtended then
        goOn rest
        readSequence style fuel true
      else literal '*'
    | .plus =>
      if style.isExtended then
        goOn rest
        readSequence style fuel isStart
      else literal '+'
    | .question =>
      if style.isExtended then
        goOn rest
        readSequence style fuel isStart
      else literal '?'
    | .bound => if style.isExtended then literal '{' else throw .invalidRepetition
    | .opening =>
      let number := state.groups + 1
      modify fun state =>
        { state with rest := rest, groups := number, pending := state.pending + 1 }
      let inner ← readAlternatives style fuel
      let (token, rest) := nextToken style (← get).rest
      match token with
      | .closing =>
        modify fun after => { after with rest := rest, pending := state.pending }
        single (.group number inner)
      | _ => throw .unmatchedGroup

end

/-- The expression that a text writes. -/
def read (style : Style) (text : String) : Except Fault Regex := do
  let start : ReadState := { rest := text.toList }
  let (regex, _) ← (readAlternatives style (4 * text.length + 8)).run start
  return regex

end Regex

end EventHooks
