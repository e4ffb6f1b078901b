import EventHooks.Text.Layout
import EventHooks.Utility.Calendar
import EventHooks.Utility.FileTree

/-!
# Utilities that compare files

Files are compared byte by byte, or line by line: a longest common subsequence of the lines tells
which of them are changed, and the changes are shown as pieces with some lines around them.
-/
namespace EventHooks.Utility

/-! ## Bytes -/

/-- The first place at which bytes differ, counted from one, with the number of the line and the two
bytes; or how many bytes are the same if one of them ends there. -/
inductive Contrast
  | same
  | differ (place line : Nat) (first second : UInt8)
  | ends (isFirst : Bool) (count lines : Nat) (endsLine : Bool)

/-- Compares bytes. -/
def contrast : Bytes → Bytes → Nat → Nat → Bool → Contrast
  | [], [], _, _, _ => .same
  | [], _ :: _, count, lines, endsLine => .ends true count lines endsLine
  | _ :: _, [], count, lines, endsLine => .ends false count lines endsLine
  | a :: as, b :: bs, count, lines, _ =>
    if a == b then contrast as bs (count + 1) (if a == 10 then lines + 1 else lines) (a == 10)
    else .differ (count + 1) (lines + 1) a b

/-- Bytes as they are shown in a list of differences. -/
def octalByte (width : Nat) (byte : UInt8) : String :=
  { width := width : Layout }.pad (String.ofList (Nat.toDigits 8 byte.toNat))

/-- All places at which bytes differ. -/
def differences : Bytes → Bytes → Nat → List (Nat × UInt8 × UInt8)
  | a :: as, b :: bs, place =>
    if a == b then differences as bs (place + 1)
    else (place, a, b) :: differences as bs (place + 1)
  | _, _, _ => []

/-- Compares two files byte by byte. -/
def cmp : Tool := fun call => do
  let known : Known :=
    { letters := "bi:ln:s", failure := 2, namesHint := true
      long := [("print-bytes", 'b'), ("ignore-initial", 'i'), ("verbose", 'l'), ("bytes", 'n'),
        ("quiet", 's'), ("silent", 's')] }
  let (options, words) ← call.parse known
  let read (path : String) (drop : Nat) : Program Bytes := do
    match ← call.contents path with
    | .ok content =>
      let content := content.drop drop
      return match (valueOf? options 'n').bind (·.toNat?) with
        | some count => content.take count
        | none => content
    | .error errno =>
      if !given options 's' then call.complain s!"{path}: {errno.words}"
      call.quit 2
  let ignored := ((valueOf? options 'i').getD "0").splitOn ":"
  let skipped (place : Nat) : Nat := ((ignored[place]?.or ignored.head?).bind (·.toNat?)).getD 0
  match words with
  | [] => known.refuse call s!"missing operand after '{call.name}'"
  | first :: rest =>
    let second := rest.headD "-"
    let skip (place : Nat) : Nat := ((rest[place]?).bind (·.toNat?)).getD (skipped (place - 1))
    let a ← read first (skip 1)
    let b ← read second (skip 2)
    let isQuiet := given options 's'
    if given options 'l' && !isQuiet then
      let width := (toString (min a.length b.length)).length
      for (place, x, y) in differences a b 1 do
        let shown (byte : UInt8) : String :=
          octalByte 3 byte ++ if given options 'b' then
            " " ++ { width := 4, left := true : Layout }.pad
              (String.singleton (Char.ofNat byte.toNat)) else ""
        let line := { width := width : Layout }.pad (toString place) ++ s!" {shown x} {shown y}"
        call.print (String.ofList (line.toList.reverse.dropWhile (· == ' ')).reverse ++ "\n")
    match contrast a b 0 0 true with
    | .same => return 0
    | .differ place line x y =>
      if isQuiet || given options 'l' then return 1
      else
        let shown (byte : UInt8) : String :=
          octalByte 3 byte ++ " " ++ String.singleton (Char.ofNat byte.toNat)
        let unit := if given options 'b' then "byte" else "char"
        let bytes := if given options 'b' then s!" is {shown x} {shown y}" else ""
        call.print s!"{first} {second} differ: {unit} {place}, line {line}{bytes}\n"
        return 1
    | .ends isFirst count lines endsLine =>
      if !isQuiet then
        let path := if isFirst then first else second
        call.complain (if count = 0 then s!"EOF on {path} which is empty"
          else if given options 'l' then s!"EOF on {path} after byte {count}"
          else if endsLine then s!"EOF on {path} after byte {count}, line {lines}"
          else s!"EOF on {path} after byte {count}, in line {lines + 1}")
      return 1

/-! ## Changes of lines -/

/-- A change: so many lines from a place on in one text take the place of so many in another. -/
structure Change where
  first : Nat
  removed : Nat
  second : Nat
  added : Nat

/-- The lengths of the longest common subsequences of what follows each place in the rows, the last
row first. -/
def commonRow (line : Bytes) (others : List Bytes) (below : List Nat) : List Nat :=
  match others, below with
  | [], _ => [0]
  | other :: others, diagonalLeft :: below =>
    let row := commonRow line others below
    let right := row.headD 0
    let best := if line == other then below.headD 0 + 1 else max diagonalLeft right
    best :: row
  | _ :: _, [] => [0]

/-- A table of the lengths of the longest common subsequences. -/
def commonTable : List Bytes → List Bytes → List (Array Nat)
  | [], others => [(List.replicate (others.length + 1) 0).toArray]
  | line :: lines, others =>
    let rows := commonTable lines others
    (commonRow line others ((rows.head?.map (·.toList)).getD [])).toArray :: rows

/-- Takes in that a line is removed or added. -/
def Change.extend (isRemoved : Bool) (first second : Nat) : List Change → List Change
  | change :: changes =>
    if change.first + change.removed == first && change.second + change.added == second then
      (if isRemoved then { change with removed := change.removed + 1 }
        else { change with added := change.added + 1 }) :: changes
    else (if isRemoved then ⟨first, 1, second, 0⟩ else ⟨first, 0, second, 1⟩) :: change :: changes
  | [] => [if isRemoved then ⟨first, 1, second, 0⟩ else ⟨first, 0, second, 1⟩]

/-- The changes between lines, the last one first. -/
def walkTable (table : Array (Array Nat)) :
    Nat → List Bytes → List Bytes → Nat → Nat → List Change → List Change
  | 0, _, _, _, _, changes => changes
  | _, [], [], _, _, changes => changes
  | fuel + 1, _ :: as, [], i, j, changes =>
    walkTable table fuel as [] (i + 1) j (Change.extend true i j changes)
  | fuel + 1, [], _ :: bs, i, j, changes =>
    walkTable table fuel [] bs i (j + 1) (Change.extend false i j changes)
  | fuel + 1, a :: as, b :: bs, i, j, changes =>
    let length (i j : Nat) : Nat := ((table[i]?).bind (·[j]?)).getD 0
    if a == b then walkTable table fuel as bs (i + 1) (j + 1) changes
    else if length i (j + 1) ≤ length (i + 1) j then
      walkTable table fuel as (b :: bs) (i + 1) j (Change.extend true i j changes)
    else walkTable table fuel (a :: as) bs i (j + 1) (Change.extend false i j changes)

/-- A change moved as far towards the end as the lines allow. -/
def Change.slide (a b : Array Bytes) (limit : Nat) : Nat → Change → Change
  | 0, change => change
  | fuel + 1, change =>
    let next := { change with first := change.first + 1, second := change.second + 1 }
    if change.first + change.removed < limit && (change.added = 0 || change.removed = 0) &&
        (if change.added = 0 then a[change.first]? == a[change.first + change.removed]?
          else b[change.second]? == b[change.second + change.added]?) then
      next.slide a b limit fuel
    else change

/-- Moves changes towards the end. The last one comes first. -/
def slideAll (a b : Array Bytes) : Nat → List Change → List Change
  | _, [] => []
  | limit, change :: changes =>
    let moved := change.slide a b limit (a.size + b.size)
    moved :: slideAll a b moved.first changes

/-- The changes that lead from lines to others. -/
def changesOf (a b : List Bytes) : List Change :=
  let pairs := a.zip b
  let start := (pairs.takeWhile fun (x, y) => x == y).length
  let (restA, restB) := (a.drop start, b.drop start)
  let table := (commonTable restA restB).toArray
  let changes := walkTable table (restA.length + restB.length + 1) restA restB 0 0 []
  let moved := changes.map fun change =>
    { change with first := change.first + start, second := change.second + start }
  (slideAll a.toArray b.toArray a.length moved).reverse

/-! ## Showing changes -/

/-- How files are compared and changes are shown. -/
structure DiffStyle where
  options : List (Char × String)
  context? : Option Nat := none

/-- Whether an option is given. -/
def DiffStyle.has (style : DiffStyle) (letter : Char) : Bool :=
  given style.options letter

/-- What counts of a line. -/
def DiffStyle.essence (style : DiffStyle) (line : Bytes) : Bytes :=
  let lower := if style.has 'i' then
      line.map fun byte => if 65 ≤ byte && byte ≤ 90 then byte + 32 else byte
    else line
  let isGap (byte : UInt8) : Bool := byte == 32 || (9 ≤ byte && byte ≤ 13)
  if style.has 'w' then lower.filter (!isGap ·)
  else if style.has 'b' then
    let runs := lower.splitBy fun first second => isGap first == isGap second
    let pieces := runs.map fun run => if run.any isGap then [32] else run
    if pieces.getLast? == some [32] then pieces.dropLast.flatten else pieces.flatten
  else lower

/-- The numbers of lines: the first and the last one, or the one before if there are none. -/
def lineRange (start count : Nat) : String :=
  if count = 0 then toString start
  else if count = 1 then toString (start + 1)
  else s!"{start + 1},{start + count}"

/-- The numbers of lines in the head of a piece. -/
def pieceRange (start count : Nat) : String :=
  if count = 1 then toString (start + 1)
  else
    let shown := if count = 0 then start else start + 1
    s!"{shown},{count}"

/-- Lines behind a mark. The last one of a text may have no end. -/
def markedLines (mark : String) (lines : List (Bytes × Bool)) : Bytes :=
  lines.flatMap fun (line, isWhole) =>
    Utf8.encode mark ++ line ++ [10] ++
      if isWhole then [] else Utf8.encode "\x5c No newline at end of file\n"

/-- The lines of a text, with whether they have an end. -/
def linesWithEnds (bytes : Bytes) : List (Bytes × Bool) :=
  let (lines, rest) := wholeLines bytes
  lines.map (·, true) ++ if rest.isEmpty then [] else [(rest, false)]

/-- A change as it is shown by itself. -/
def Change.shown (a b : List (Bytes × Bool)) (change : Change) : Bytes :=
  let letter := if change.added = 0 then "d" else if change.removed = 0 then "a" else "c"
  Utf8.encode
      s!"{lineRange change.first change.removed}{letter}{lineRange change.second change.added}\n" ++
    markedLines "< " ((a.drop change.first).take change.removed) ++
    (if change.added != 0 && change.removed != 0 then Utf8.encode "---\n" else []) ++
    markedLines "> " ((b.drop change.second).take change.added)

/-- Parts changes into groups that have no more than some lines between them. -/
def nearGroups (distance : Nat) : List Change → List (List Change)
  | [] => []
  | change :: changes =>
    match nearGroups distance changes with
    | (next :: group) :: groups =>
      if next.first ≤ change.first + change.removed + distance then
        (change :: next :: group) :: groups
      else [change] :: (next :: group) :: groups
    | groups => [change] :: groups

/-- Changes with the lines between them, from a line of the first text on. -/
def groupLines (a b : List (Bytes × Bool)) (stop : Nat) : Nat → List Change → Bytes
  | place, [] => markedLines " " ((a.drop place).take (stop - place))
  | place, change :: changes =>
    markedLines " " ((a.drop place).take (change.first - place)) ++
      markedLines "-" ((a.drop change.first).take change.removed) ++
      markedLines "+" ((b.drop change.second).take change.added) ++
      groupLines a b stop (change.first + change.removed) changes

/-- A group of changes with lines around them. -/
def shownGroup (a b : List (Bytes × Bool)) (context : Nat) (group : List Change) : Bytes :=
  match group.head?, group.getLast? with
  | some first, some last =>
    let before := min context first.first
    let after := min context (a.length - (last.first + last.removed))
    let start := first.first - before
    let stop := last.first + last.removed + after
    let other := first.second - before
    let otherStop := last.second + last.added + after
    let range := pieceRange start (stop - start)
    let otherRange := pieceRange other (otherStop - other)
    Utf8.encode s!"@@ -{range} +{otherRange} @@\n" ++ groupLines a b stop start group
  | _, _ => []

/-- Changes as a style shows them, behind the heads of two texts. -/
def DiffStyle.shown (style : DiffStyle) (heads : List String) (a b : List (Bytes × Bool))
    (changes : List Change) : Bytes :=
  match style.context? with
  | none => changes.flatMap (·.shown a b)
  | some context =>
    Utf8.encode (String.join heads) ++
      (nearGroups (2 * context) changes).flatMap (shownGroup a b context)

/-! ## Comparing files -/

/-- The head of a text in a list of changes. -/
def headOf (mark path : String) (label? : Option String) : Program String := do
  match label? with
  | some label => return s!"{mark} {label}\n"
  | none =>
    let present ← presentTime
    let time : Calendar.Time ← match ← placeOf path with
      | .ok (.present location _) => Program.observe fun _ world =>
        (Calendar.clockStart : Int) * 1000000 + world.stampOf location
      | _ => pure present
    let stamp := Calendar.text time "%Y-%m-%d %H:%M:%S.%N %z"
    return s!"{mark} {path}\t{stamp}\n"

/-- Compares two texts that are named by paths. -/
def compareTexts (call : Call) (style : DiffStyle) (title : String) (first second : String)
    (a b : Bytes) : Program Nat := do
  if a == b then
    if style.has 's' then call.print s!"Files {first} and {second} are identical\n"
    return 0
  else
    let (linesA, linesB) := (linesWithEnds a, linesWithEnds b)
    let essence (line : Bytes × Bool) : Bytes :=
      style.essence line.1 ++ if line.2 || style.has 'w' || style.has 'b' then [10] else []
    let changes := changesOf (linesA.map essence) (linesB.map essence)
    if changes.isEmpty then
      if style.has 's' then call.print s!"Files {first} and {second} are identical\n"
      return 0
    else if style.has 'q' then
      call.print s!"Files {first} and {second} differ\n"
      return 1
    else if (a.contains 0 || b.contains 0) && !style.has 'a' then
      call.print s!"Binary files {first} and {second} differ\n"
      return 1
    else
      let labels := (style.options.filter (·.1 == 'L')).map (·.2)
      let heads := [← headOf "---" first labels[0]?, ← headOf "+++" second labels[1]?]
      call.print title
      call.put (style.shown heads linesA linesB changes)
      return 1

/-- The contents of a path to compare. A path at which there is nothing may count as an empty
file. -/
def comparedContents (call : Call) (style : DiffStyle) (path : String) :
    Program (Except Errno Bytes) := do
  match ← call.contents path with
  | .error .noEntry => return if style.has 'N' then .ok [] else .error .noEntry
  | result => return result

/-- Compares two paths: files by their contents, and directories by what is in them. -/
def comparePaths (call : Call) (style : DiffStyle) (title : String) :
    Nat → String → String → Program Nat
  | 0, _, _ => return 2
  | fuel + 1, first, second => do
    match ← isDirectory first, ← isDirectory second with
    | true, true =>
      match ← placeOf first, ← placeOf second with
      | .ok (.present a _), .ok (.present b _) =>
        let (names, others) := (← namesAt a, ← namesAt b)
        let all := (names ++ others.filter (!names.contains ·)).mergeSort fun x y =>
          Utf8.bytesBefore (ByteText.toBytes x) (ByteText.toBytes y)
        forEach (fun name => do
          let (left, right) := (within first name, within second name)
          if names.contains name && others.contains name then
            if (← isDirectory left) && (← isDirectory right) then
              if style.has 'r' then comparePaths call style title fuel left right
              else
                call.print s!"Common subdirectories: {left} and {right}\n"
                return 0
            else
              let title := s!"diff{title} {quotedIfNeeded left} {quotedIfNeeded right}\n"
              match ← comparedContents call style left, ← comparedContents call style right with
              | .ok a, .ok b => compareTexts call style title left right a b
              | _, _ => return 2
          else if style.has 'N' then
            match ← comparedContents call style left, ← comparedContents call style right with
            | .ok a, .ok b => compareTexts call style "" left right a b
            | _, _ => return 2
          else
            let place := if names.contains name then first else second
            call.print s!"Only in {place}: {name}\n"
            return 1) all 0
      | _, _ => return 2
    | true, false => comparePaths call style title fuel (within first (lastName second)) second
    | false, true => comparePaths call style title fuel first (within second (lastName first))
    | false, false =>
      let refuse (path : String) (errno : Errno) : Program Unit :=
        call.complain s!"{path}: {errno.words}"
      match ← comparedContents call style first, ← comparedContents call style second with
      | .ok a, .ok b => compareTexts call style "" first second a b
      | a, b =>
        if let .error errno := a then refuse first errno
        if let .error errno := b then refuse second errno
        return 2

/-- Compares files line by line. -/
def diff : Tool := fun call => do
  let known : Known :=
    { letters := "abdiL:nNqrstuU:w", failure := 2, namesHint := true
      long := [("text", 'a'), ("ignore-space-change", 'b'), ("minimal", 'd'),
        ("ignore-case", 'i'), ("label", 'L'), ("normal", 'n'), ("new-file", 'N'), ("brief", 'q'),
        ("recursive", 'r'), ("report-identical-files", 's'), ("unified", 'u'),
        ("ignore-all-space", 'w')] }
  let (options, words) ← call.parse known
  let context? := match lastOf? options ['u', 'U'] with
    | none => none
    | some 'u' => some 3
    | some _ => some (((valueOf? options 'U').bind (·.toNat?)).getD 3)
  let style : DiffStyle := ⟨options, context?⟩
  let shown := call.arguments.filter (!words.contains ·)
  match words with
  | [] => known.refuse call s!"missing operand after '{call.name}'"
  | [word] => known.refuse call s!"missing operand after {quoted word}"
  | [first, second] =>
    comparePaths call style (String.join (shown.map (" " ++ ·))) 1000 first second
  | _ :: _ :: extra :: _ => known.refuse call s!"extra operand {quoted extra}"

end EventHooks.Utility
