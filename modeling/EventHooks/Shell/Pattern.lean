import EventHooks.Text.CharClass

/-!
# Patterns

In a pattern an asterisk stands for any characters, a question mark for one, and brackets for one
of a set. A backslash lets the character after it stand for itself, and so does a quotation.
-/
namespace EventHooks.Shell

/-- A character of a pattern: whether it is free to mean something. -/
structure PatternChar where
  char : Char
  free : Bool
  deriving DecidableEq, Repr

/-- A set of characters in brackets: single characters, ranges and classes. -/
structure CharSet where
  negated : Bool := false
  ranges : List (Char × Char) := []
  classes : List String := []

/-- Whether a character is in a set. -/
def CharSet.contains (set : CharSet) (c : Char) : Bool :=
  (set.ranges.any (fun range => range.1 ≤ c && c ≤ range.2) ||
    set.classes.any fun name => (CharClass.named? name).any (· c)) != set.negated

/-- The name of a class at the start of a pattern after a bracket and a colon, with what follows. -/
def className? (pattern : List PatternChar) : Option (String × List PatternChar) :=
  let name := pattern.takeWhile (·.char.isLower)
  match pattern.drop name.length with
  | colon :: bracket :: rest =>
    let text := String.ofList (name.map (·.char))
    if colon.char == ':' && bracket.char == ']' && (CharClass.named? text).isSome then
      some (text, rest)
    else none
  | _ => none

/-- Takes in the items of a set up to the bracket that closes it. -/
def setItems (set : CharSet) : Nat → Bool → List PatternChar → Option (CharSet × List PatternChar)
  | 0, _, _ => none
  | _ + 1, _, [] => none
  | fuel + 1, isFirst, item :: rest =>
    if item.free && item.char == ']' && !isFirst then some (set, rest)
    else
      let named? := match rest with
        | colon :: more =>
          if item.free && item.char == '[' && colon.char == ':' then className? more else none
        | [] => none
      match named? with
      | some (name, rest) => setItems { set with classes := name :: set.classes } fuel false rest
      | none =>
        let (low, rest) := match item.free && item.char == '\\', rest with
          | true, next :: rest => (next.char, rest)
          | _, rest => (item.char, rest)
        match rest with
        | dash :: high :: more =>
          if dash.free && dash.char == '-' && !(high.free && high.char == ']') then
            setItems { set with ranges := (low, high.char) :: set.ranges } fuel false more
          else setItems { set with ranges := (low, low) :: set.ranges } fuel false rest
        | rest => setItems { set with ranges := (low, low) :: set.ranges } fuel false rest

/-- The set at the start of a pattern after its bracket, with what follows. -/
def charSet? (pattern : List PatternChar) : Option (CharSet × List PatternChar) :=
  match pattern with
  | first :: rest =>
    if first.free && (first.char == '!' || first.char == '^') then
      setItems { negated := true } (pattern.length + 1) true rest
    else setItems {} (pattern.length + 1) true pattern
  | [] => none

/-- Whether characters match a pattern. -/
def patternMatches (fuel : Nat) (pattern : List PatternChar) (text : List Char) : Bool :=
  match fuel with
  | 0 => false
  | fuel + 1 =>
    match pattern with
    | [] => text.isEmpty
    | item :: rest =>
      let meaning := if item.free then item.char else 'x'
      let single (matches? : Char → Bool) (rest : List PatternChar) : Bool :=
        match text with
        | c :: text => matches? c && patternMatches fuel rest text
        | [] => false
      match meaning with
      | '*' =>
        patternMatches fuel rest text ||
          match text with
          | [] => false
          | _ :: text => patternMatches fuel pattern text
      | '?' => single (fun _ => true) rest
      | '[' =>
        match charSet? rest with
        | some (set, rest) => single set.contains rest
        | none => single (· == '[') rest
      | '\\' =>
        match rest with
        | next :: rest => single (· == next.char) rest
        | [] => single (· == '\\') rest
      | _ => single (· == item.char) rest

/-- Leaves out asterisks that follow another one. -/
def squeezed : List PatternChar → List PatternChar
  | first :: second :: rest =>
    if first == ⟨'*', true⟩ && second == ⟨'*', true⟩ then squeezed (second :: rest)
    else first :: squeezed (second :: rest)
  | pattern => pattern

/-- Whether a text matches a pattern. -/
def matchesPattern (pattern : List PatternChar) (text : List Char) : Bool :=
  patternMatches (pattern.length + text.length + 1) (squeezed pattern) text

/-- Whether a pattern has a character that means something. -/
def hasWildcard (pattern : List PatternChar) : Bool :=
  pattern.any fun item => item.free && (item.char == '*' || item.char == '?' || item.char == '[')

/-- The characters that a pattern without wildcards stands for. -/
def unescaped : List PatternChar → List Char
  | [] => []
  | [item] => [item.char]
  | item :: next :: rest =>
    if item.free && item.char == '\\' then next.char :: unescaped rest
    else item.char :: unescaped (next :: rest)

/-- Whether what comes before the first null of a text matches a pattern. -/
def matchesBeforeNull (pattern : List PatternChar) (text : List Char) : Bool :=
  matchesPattern pattern (text.takeWhile (· != '\x00'))

/-- Takes away a start that matches a pattern: the longest one, or the shortest one. -/
def trimStart (longest : Bool) (pattern : List PatternChar) (text : List Char) : List Char :=
  let counts := List.range (text.length + 1)
  let counts := if longest then counts.reverse else counts
  match counts.find? fun count => matchesBeforeNull pattern (text.take count) with
  | some count => text.drop count
  | none => text

/-- Takes away an end that matches a pattern: the longest one, or the shortest one. The longest one
starts before a null. -/
def trimEnd (longest : Bool) (pattern : List PatternChar) (text : List Char) : List Char :=
  let limit := if longest then (text.takeWhile (· != '\x00')).length else text.length
  let counts := List.range (limit + 1)
  let counts := if longest then counts else counts.reverse
  match counts.find? fun count => matchesBeforeNull pattern (text.drop count) with
  | some count => text.take count
  | none => text

end EventHooks.Shell
