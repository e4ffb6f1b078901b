import EventHooks.Text.CharClass
import EventHooks.Utility.Call

/-!
# Utilities for characters

Characters of the standard input are replaced, deleted and squeezed; sets of them are written with
ranges, classes and escapes.
-/
namespace EventHooks.Utility

/-! ## Sets of characters -/

/-- A part of a set: characters in their order, or one that is repeated, without a count as often as
needed. -/
inductive SetPart
  | chars (bytes : Bytes)
  | repeated (byte : UInt8) (count? : Option Nat)

/-- Why a set cannot be read. -/
inductive SetFault
  | reversed (range : String)
  | unknownClass (name : String)

/-- The words for a fault. -/
def SetFault.message : SetFault → String
  | .reversed range =>
    s!"range-endpoints of {quoted range} are in reverse collating sequence order"
  | .unknownClass name => s!"invalid character class {quoted name}"

/-- The characters of a set after escapes, with whether each was escaped. -/
def unescapedSet : Nat → List Char → List (Char × Bool)
  | 0, _ => []
  | _, [] => []
  | fuel + 1, '\\' :: c :: rest =>
    let isOctal (c : Char) : Bool := '0' ≤ c && c ≤ '7'
    if isOctal c then
      let digits := ((c :: rest).take 3).takeWhile isOctal
      let value := digits.foldl (fun value c => value * 8 + (c.toNat - '0'.toNat)) 0
      let digits := if 255 < value then digits.take 2 else digits
      let value := digits.foldl (fun value c => value * 8 + (c.toNat - '0'.toNat)) 0
      (Char.ofNat value, true) :: unescapedSet fuel ((c :: rest).drop digits.length)
    else
      let meant := match c with
        | 'a' => '\x07'
        | 'b' => '\x08'
        | 'f' => '\x0c'
        | 'n' => '\n'
        | 'r' => '\r'
        | 't' => '\t'
        | 'v' => '\x0b'
        | c => c
      (meant, true) :: unescapedSet fuel rest
  | fuel + 1, c :: rest => (c, false) :: unescapedSet fuel rest

/-- The bytes of a class. -/
def classBytes? (name : String) : Option Bytes :=
  (CharClass.named? name).map fun holds =>
    ((List.range 256).filter fun code => holds (Char.ofNat code)).map Nat.toUInt8

/-- The repeated character that stands in brackets, and what follows. -/
def repeated? (chars : List (Char × Bool)) : Option (SetPart × List (Char × Bool)) :=
  match chars with
  | ('[', false) :: (c, _) :: ('*', false) :: rest =>
    let inside := rest.takeWhile (· != (']', false))
    let digits := inside.map (·.1)
    if rest.length == inside.length || !digits.all (·.isDigit) then none
    else
      let base := if digits.head? == some '0' then 8 else 10
      let count := digits.foldl (fun value c => value * base + (c.toNat - '0'.toNat)) 0
      some (.repeated c.toNat.toUInt8 (if count = 0 then none else some count),
        rest.drop (inside.length + 1))
  | _ => none

/-- The parts of a set. -/
def setParts : Nat → List (Char × Bool) → Except SetFault (List SetPart)
  | 0, _ => .ok []
  | _, [] => .ok []
  | fuel + 1, chars =>
    let single : Except SetFault (List SetPart) :=
      match chars with
      | (low, _) :: ('-', false) :: (high, _) :: rest =>
        if high.toNat < low.toNat then .error (.reversed (String.ofList [low, '-', high]))
        else
          let codes := (List.range (high.toNat + 1)).drop low.toNat
          (setParts fuel rest).map (.chars (codes.map Nat.toUInt8) :: ·)
      | (c, _) :: rest => (setParts fuel rest).map (.chars [c.toNat.toUInt8] :: ·)
      | [] => .ok []
    match chars with
    | ('[', false) :: (':', false) :: rest =>
      let name := (rest.takeWhile (· != (':', false))).map (·.1)
      match rest.drop name.length with
      | (':', false) :: (']', false) :: rest =>
        match classBytes? (String.ofList name) with
        | some bytes => (setParts fuel rest).map (.chars bytes :: ·)
        | none => .error (.unknownClass (String.ofList name))
      | _ => single
    | ('[', false) :: ('=', false) :: (c, _) :: ('=', false) :: (']', false) :: rest =>
      (setParts fuel rest).map (.chars [c.toNat.toUInt8] :: ·)
    | chars =>
      match repeated? chars with
      | some (part, rest) => (setParts fuel rest).map (part :: ·)
      | none => single

/-- The parts of a set that a text writes. -/
def readSet (text : String) : Except SetFault (List SetPart) :=
  let chars := unescapedSet (text.length + 1) text.toList
  setParts (chars.length + 1) chars

/-- Whether a part is repeated as often as needed. -/
def SetPart.isOpen : SetPart → Bool
  | .repeated _ none => true
  | _ => false

/-- The bytes of a part, which fills a length if it is repeated as often as needed. -/
def SetPart.bytes (fill : Nat) : SetPart → Bytes
  | .chars bytes => bytes
  | .repeated byte count? => List.replicate (count?.getD fill) byte

/-- The bytes of parts, of which those without a count fill up to a length. -/
def setBytes (length : Nat) (parts : List SetPart) : Bytes :=
  let size := (parts.map fun part => (part.bytes 0).length).foldl (· + ·) 0
  parts.flatMap (·.bytes (length - size))

/-! ## Replacing -/

/-- What becomes of every byte: it is replaced or deleted, and perhaps left out after itself. -/
structure Replacement where
  targets : Array (Option UInt8)
  squeezes : Bytes

/-- The bytes that come of some others, after a last one. -/
def Replacement.apply (replacement : Replacement) (last? : Option UInt8) (bytes : Bytes) :
    Bytes × Option UInt8 :=
  let (done, last?) := bytes.foldl (fun (done, last?) byte =>
    match (replacement.targets[byte.toNat]?).bind (·) with
    | none => (done, last?)
    | some byte =>
      if last? == some byte && replacement.squeezes.contains byte then (done, last?)
      else (byte :: done, some byte)) (([] : Bytes), last?)
  (done.reverse, last?)

/-- Every byte. -/
def allBytes : Bytes :=
  (List.range 256).map Nat.toUInt8

/-- Replaces, deletes and squeezes characters of the standard input. -/
def tr : Tool := fun call => do
  let known : Known :=
    { letters := "cCdst", stops := true
      long := [("complement", 'c'), ("delete", 'd'), ("squeeze-repeats", 's'),
        ("truncate-set1", 't')] }
  let (options, sets) ← call.parse known
  let deletes := given options 'd'
  let squeezes := given options 's'
  let least := if deletes == squeezes then 2 else 1
  let most := if deletes && !squeezes then 1 else 2
  match sets, sets[most]? with
  | [], _ => call.misuse "missing operand"
  | [first], _ =>
    if least = 2 then
      let reason := if squeezes then
          "Two strings must be given when both deleting and squeezing repeats."
        else "Two strings must be given when translating."
      call.misuse s!"missing operand after {quoted first}\n{reason}"
  | _, some extra =>
    let reason := if most = 1 && sets.length == 2 then
        "\nOnly one string may be given when deleting without squeezing repeats."
      else ""
    call.misuse s!"extra operand {quoted extra}{reason}"
  | _, none => pure ()
  let parts ← sets.mapM fun set => do
    match readSet set with
    | .ok parts => pure parts
    | .error fault =>
      call.complain fault.message
      call.quit 1
  let refuse (message : String) : Program Unit := do
    call.complain message
    call.quit 1
  let openRepeats (place : Nat) : Nat := ((parts[place]?).getD []).countP (·.isOpen)
  if openRepeats 0 != 0 then
    refuse "the [c*] repeat construct may not appear in string1"
  if 1 < openRepeats 1 then
    refuse "only one [c*] repeat construct may appear in string2"
  if openRepeats 1 != 0 && deletes then
    refuse "the [c*] construct may appear in string2 only when translating"
  let first := setBytes 0 (parts.headD [])
  let isComplement := given options 'c' || given options 'C'
  let chosen := if isComplement then allBytes.filter (!first.contains ·) else first
  let second? := (parts[1]?).map (setBytes chosen.length)
  let translates := !deletes && second?.isSome
  if translates && second? == some [] && !given options 't' && !chosen.isEmpty then
    call.complain "when not truncating set1, string2 must be non-empty"
    return 1
  let second := (second?.getD []).toArray
  let target (byte : UInt8) : Option UInt8 :=
    if deletes then if chosen.contains byte then none else some byte
    else if !translates then some byte
    else
      let places := chosen.reverse.idxOf? byte
      match places.map fun place => chosen.length - 1 - place with
      | none => some byte
      | some place =>
        match second[place]? with
        | some other => some other
        | none => if given options 't' then some byte else second.back?.or (some byte)
  let replacement : Replacement :=
    { targets := (allBytes.map target).toArray
      squeezes := if squeezes then second?.getD chosen else [] }
  call.gathering do
    match ← (Program.handle? 0 : Program _) with
    | none =>
      call.complain s!"read error: {Errno.badDescriptor.words}"
      return 1
    | some handle =>
      let (_, errno?) ← foldPieces handle (fun last? bytes => do
        let (bytes, last?) := replacement.apply last? bytes
        call.emit bytes
        return (last?, true)) Program.patience (none : Option UInt8)
      match errno? with
      | some errno =>
        call.complain s!"read error: {errno.words}"
        return 1
      | none => return 0

/-! ## Lines -/

/-- Writes the lines of inputs, each as a function makes it. -/
def mapLines (call : Call) (paths : List String) (change : Bytes → Bytes) : Program Nat :=
  call.gathering (call.overInputs paths fun path handle => do
    let (_, errno?) ← foldLines handle (fun (_ : Unit) line isWhole => do
      call.emit (change line ++ if isWhole then [10] else [])
      return ((), true)) ()
    match errno? with
    | some errno =>
      call.complain s!"{quotedIfNeeded path}: {errno.words}"
      return 1
    | none => return 0)

/-- Writes lines from their ends to their starts. -/
def rev : Tool := fun call => do
  let (_, paths) ← call.parse { letters := "" }
  mapLines call paths fun line => line.reverse

/-- Where a line is cut that is wider than a width: at the width, or behind the last blank before
it. -/
def foldedLine (width : Nat) (atBlanks : Bool) : Nat → Bytes → List Bytes
  | 0, line => [line]
  | fuel + 1, line =>
    if line.length ≤ width then [line]
    else
      let head := line.take width
      let upToBlank := (head.reverse.dropWhile (· != 32)).reverse
      let piece := if atBlanks && !upToBlank.isEmpty then upToBlank else head
      piece :: foldedLine width atBlanks fuel (line.drop piece.length)

/-- Cuts lines to a width. -/
def fold : Tool := fun call => do
  let known : Known :=
    { letters := "bcsw:", long := [("bytes", 'b'), ("spaces", 's'), ("width", 'w')] }
  let (options, paths) ← call.parse known
  let width := ((valueOf? options 'w').bind (·.toNat?)).getD 80
  if width = 0 || ((valueOf? options 'w').any (·.toNat?.isNone)) then
    let value := quoted ((valueOf? options 'w').getD "")
    call.complain s!"invalid number of columns: {value}"
    return 1
  mapLines call paths fun line =>
    [10].intercalate (foldedLine width (given options 's') (line.length + 1) line)

/-- A line with blanks for its tabs. -/
def expandedLine (stop : Nat) (line : Bytes) : Bytes :=
  (line.foldl (fun (done, column) byte =>
    if byte == 9 then
      let gap := stop - column % stop
      (List.replicate gap 32 ++ done, column + gap)
    else (byte :: done, column + 1)) (([] : Bytes), 0)).1.reverse

/-- Writes blanks for tabs. -/
def expand : Tool := fun call => do
  let known : Known := { letters := "it:", long := [("initial", 'i'), ("tabs", 't')] }
  let (options, paths) ← call.parse known
  let stop := max 1 (((valueOf? options 't').bind (·.toNat?)).getD 8)
  mapLines call paths (expandedLine stop)

end EventHooks.Utility
