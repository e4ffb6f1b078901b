import EventHooks.Text.Hex
import EventHooks.Utility.Call

/-!
# Digests

Digests of bytes: these are padded to whole blocks with their length at the end, and every block
changes a state of words.
-/
namespace EventHooks.Utility

/-! ## Blocks -/

/-- A word turned to the left. -/
def turnLeft (word : UInt32) (count : Nat) : UInt32 :=
  (word <<< count.toUInt32) ||| (word >>> (32 - count).toUInt32)

/-- A word turned to the right. -/
def turnRight (word : UInt32) (count : Nat) : UInt32 :=
  turnLeft word (32 - count)

/-- Bytes padded to whole blocks, with their length in bits in eight bytes. -/
def paddedBlocks (lowFirst : Bool) (bytes : Bytes) : Bytes :=
  let gap := (119 - bytes.length % 64) % 64
  let size := (List.range 8).map fun place => (bytes.length * 8 / Nat.pow 256 place).toUInt8
  bytes ++ [0x80] ++ List.replicate gap 0 ++ (if lowFirst then size else size.reverse)

/-- The words of bytes. -/
def wordsOf (lowFirst : Bool) : Bytes → List UInt32
  | a :: b :: c :: d :: rest =>
    let join (a b c d : UInt8) : UInt32 :=
      (a.toUInt32 <<< 24) ||| (b.toUInt32 <<< 16) ||| (c.toUInt32 <<< 8) ||| d.toUInt32
    (if lowFirst then join d c b a else join a b c d) :: wordsOf lowFirst rest
  | _ => []

/-- The hexadecimal digits of words. -/
def digestText (lowFirst : Bool) (words : List UInt32) : String :=
  String.ofList (words.flatMap fun word =>
    let bytes := (List.range 4).map fun place => (word >>> (8 * place).toUInt32).toNat % 256
    (if lowFirst then bytes else bytes.reverse).flatMap (Text.hexDigits 2))

/-- Folds blocks of sixteen words into a state. -/
def overBlocks {α : Type} (step : α → Array UInt32 → α) : Nat → α → List UInt32 → α
  | 0, state, _ => state
  | fuel + 1, state, words =>
    if words.isEmpty then state
    else overBlocks step fuel (step state (words.take 16).toArray) (words.drop 16)

/-- A word of a block. -/
def wordAt (words : Array UInt32) (place : Nat) : UInt32 :=
  (words[place]?).getD 0

/-! ## The digest of 128 bits -/

/-- The words that its steps add. -/
def sineWords : Array UInt32 := #[
  0xd76aa478, 0xe8c7b756, 0x242070db, 0xc1bdceee, 0xf57c0faf, 0x4787c62a, 0xa8304613, 0xfd469501,
  0x698098d8, 0x8b44f7af, 0xffff5bb1, 0x895cd7be, 0x6b901122, 0xfd987193, 0xa679438e, 0x49b40821,
  0xf61e2562, 0xc040b340, 0x265e5a51, 0xe9b6c7aa, 0xd62f105d, 0x02441453, 0xd8a1e681, 0xe7d3fbc8,
  0x21e1cde6, 0xc33707d6, 0xf4d50d87, 0x455a14ed, 0xa9e3e905, 0xfcefa3f8, 0x676f02d9, 0x8d2a4c8a,
  0xfffa3942, 0x8771f681, 0x6d9d6122, 0xfde5380c, 0xa4beea44, 0x4bdecfa9, 0xf6bb4b60, 0xbebfbc70,
  0x289b7ec6, 0xeaa127fa, 0xd4ef3085, 0x04881d05, 0xd9d4d039, 0xe6db99e5, 0x1fa27cf8, 0xc4ac5665,
  0xf4292244, 0x432aff97, 0xab9423a7, 0xfc93a039, 0x655b59c3, 0x8f0ccc92, 0xffeff47d, 0x85845dd1,
  0x6fa87e4f, 0xfe2ce6e0, 0xa3014314, 0x4e0811a1, 0xf7537e82, 0xbd3af235, 0x2ad7d2bb, 0xeb86d391]

/-- How far its steps turn. -/
def sineTurns : Array Nat := #[7, 12, 17, 22, 5, 9, 14, 20, 4, 11, 16, 23, 6, 10, 15, 21]

/-- Four words of a state. -/
structure FourWords where
  a : UInt32
  b : UInt32
  c : UInt32
  d : UInt32

/-- A step of the digest of 128 bits. -/
def sineStep (block : Array UInt32) (state : FourWords) (place : Nat) : FourWords :=
  let ⟨a, b, c, d⟩ := state
  let (mixed, index) :=
    if place < 16 then ((b &&& c) ||| (~~~b &&& d), place)
    else if place < 32 then ((d &&& b) ||| (~~~d &&& c), (5 * place + 1) % 16)
    else if place < 48 then (b ^^^ c ^^^ d, (3 * place + 5) % 16)
    else (c ^^^ (b ||| ~~~d), (7 * place) % 16)
  let turns := (sineTurns[place / 16 * 4 + place % 4]?).getD 0
  let sum := a + mixed + wordAt sineWords place + wordAt block index
  ⟨d, b + turnLeft sum turns, b, c⟩

/-- The digest of 128 bits. -/
def digest128 (bytes : Bytes) : String :=
  let words := wordsOf true (paddedBlocks true bytes)
  let state := overBlocks (fun (state : FourWords) block =>
    let next := (List.range 64).foldl (sineStep block) state
    ⟨state.a + next.a, state.b + next.b, state.c + next.c, state.d + next.d⟩)
    (words.length + 1) ⟨0x67452301, 0xefcdab89, 0x98badcfe, 0x10325476⟩ words
  digestText true [state.a, state.b, state.c, state.d]

/-! ## The digest of 160 bits -/

/-- A block with more words that are made of the ones before. -/
def extended160 (block : Array UInt32) : Array UInt32 :=
  (List.range 64).foldl (fun words place =>
    let word (back : Nat) : UInt32 := wordAt words (place + 16 - back)
    words.push (turnLeft (word 3 ^^^ word 8 ^^^ word 14 ^^^ word 16) 1)) block

/-- A step of the digest of 160 bits. -/
def step160 (words : Array UInt32) (state : FourWords × UInt32) (place : Nat) :
    FourWords × UInt32 :=
  let (⟨a, b, c, d⟩, e) := state
  let (mixed, added) : UInt32 × UInt32 :=
    if place < 20 then ((b &&& c) ||| (~~~b &&& d), 0x5a827999)
    else if place < 40 then (b ^^^ c ^^^ d, 0x6ed9eba1)
    else if place < 60 then ((b &&& c) ||| (b &&& d) ||| (c &&& d), 0x8f1bbcdc)
    else (b ^^^ c ^^^ d, 0xca62c1d6)
  (⟨turnLeft a 5 + mixed + e + added + wordAt words place, a, turnLeft b 30, c⟩, d)

/-- The digest of 160 bits. -/
def digest160 (bytes : Bytes) : String :=
  let words := wordsOf false (paddedBlocks false bytes)
  let start : FourWords × UInt32 :=
    (⟨0x67452301, 0xefcdab89, 0x98badcfe, 0x10325476⟩, 0xc3d2e1f0)
  let (⟨a, b, c, d⟩, e) := overBlocks (fun (state : FourWords × UInt32) block =>
    let (next, last) := (List.range 80).foldl (step160 (extended160 block)) state
    (⟨state.1.a + next.a, state.1.b + next.b, state.1.c + next.c, state.1.d + next.d⟩,
      state.2 + last)) (words.length + 1) start words
  digestText false [a, b, c, d, e]

/-! ## The digest of 256 bits -/

/-- The words that its steps add. -/
def rootWords : Array UInt32 := #[
  0x428a2f98, 0x71374491, 0xb5c0fbcf, 0xe9b5dba5, 0x3956c25b, 0x59f111f1, 0x923f82a4, 0xab1c5ed5,
  0xd807aa98, 0x12835b01, 0x243185be, 0x550c7dc3, 0x72be5d74, 0x80deb1fe, 0x9bdc06a7, 0xc19bf174,
  0xe49b69c1, 0xefbe4786, 0x0fc19dc6, 0x240ca1cc, 0x2de92c6f, 0x4a7484aa, 0x5cb0a9dc, 0x76f988da,
  0x983e5152, 0xa831c66d, 0xb00327c8, 0xbf597fc7, 0xc6e00bf3, 0xd5a79147, 0x06ca6351, 0x14292967,
  0x27b70a85, 0x2e1b2138, 0x4d2c6dfc, 0x53380d13, 0x650a7354, 0x766a0abb, 0x81c2c92e, 0x92722c85,
  0xa2bfe8a1, 0xa81a664b, 0xc24b8b70, 0xc76c51a3, 0xd192e819, 0xd6990624, 0xf40e3585, 0x106aa070,
  0x19a4c116, 0x1e376c08, 0x2748774c, 0x34b0bcb5, 0x391c0cb3, 0x4ed8aa4a, 0x5b9cca4f, 0x682e6ff3,
  0x748f82ee, 0x78a5636f, 0x84c87814, 0x8cc70208, 0x90befffa, 0xa4506ceb, 0xbef9a3f7, 0xc67178f2]

/-- A block with more words that are made of the ones before. -/
def extended256 (block : Array UInt32) : Array UInt32 :=
  (List.range 48).foldl (fun words place =>
    let word (back : Nat) : UInt32 := wordAt words (place + 16 - back)
    let low := turnRight (word 15) 7 ^^^ turnRight (word 15) 18 ^^^ (word 15 >>> 3)
    let high := turnRight (word 2) 17 ^^^ turnRight (word 2) 19 ^^^ (word 2 >>> 10)
    words.push (word 16 + low + word 7 + high)) block

/-- A step of the digest of 256 bits. -/
def step256 (words : Array UInt32) (state : FourWords × FourWords) (place : Nat) :
    FourWords × FourWords :=
  let (⟨a, b, c, d⟩, ⟨e, f, g, h⟩) := state
  let high := turnRight e 6 ^^^ turnRight e 11 ^^^ turnRight e 25
  let first := h + high + ((e &&& f) ^^^ (~~~e &&& g)) + wordAt rootWords place +
    wordAt words place
  let low := turnRight a 2 ^^^ turnRight a 13 ^^^ turnRight a 22
  let second := low + ((a &&& b) ^^^ (a &&& c) ^^^ (b &&& c))
  (⟨first + second, a, b, c⟩, ⟨d + first, e, f, g⟩)

/-- The sums of two states, word by word. -/
def FourWords.add (first second : FourWords) : FourWords :=
  ⟨first.a + second.a, first.b + second.b, first.c + second.c, first.d + second.d⟩

/-- The digest of 256 bits. -/
def digest256 (bytes : Bytes) : String :=
  let words := wordsOf false (paddedBlocks false bytes)
  let start : FourWords × FourWords :=
    (⟨0x6a09e667, 0xbb67ae85, 0x3c6ef372, 0xa54ff53a⟩,
      ⟨0x510e527f, 0x9b05688c, 0x1f83d9ab, 0x5be0cd19⟩)
  let (⟨a, b, c, d⟩, ⟨e, f, g, h⟩) := overBlocks (fun (state : FourWords × FourWords) block =>
    let next := (List.range 64).foldl (step256 (extended256 block)) state
    (state.1.add next.1, state.2.add next.2)) (words.length + 1) start words
  digestText false [a, b, c, d, e, f, g, h]

/-! ## Writing and checking -/

/-- Checks the digests that the lines of an input tell. -/
def checkDigests (call : Call) (digest : Bytes → String) (isSilent isQuiet : Bool)
    (content : Bytes) : Program Nat := do
  let mut wrong := 0
  let mut unread := 0
  for line in linesOf content do
    let chars := (ByteText.ofBytes line).toList
    let told := String.ofList (chars.takeWhile (· != ' '))
    let path := String.ofList (chars.drop (told.length + 2))
    match ← call.contents path with
    | .error errno =>
      call.complain s!"{quotedIfNeeded path}: {errno.words}"
      call.print s!"{path}: FAILED open or read\n"
      unread := unread + 1
    | .ok content =>
      if digest content == told.map Char.toLower then
        if !isSilent && !isQuiet then call.print s!"{path}: OK\n"
      else
        if !isSilent then call.print s!"{path}: FAILED\n"
        wrong := wrong + 1
  if unread = 1 && !isSilent then
    call.complain "WARNING: 1 listed file could not be read"
  else if 0 < unread && !isSilent then
    call.complain s!"WARNING: {unread} listed files could not be read"
  if wrong = 1 && !isSilent then
    call.complain "WARNING: 1 computed checksum did NOT match"
  else if 0 < wrong && !isSilent then
    call.complain s!"WARNING: {wrong} computed checksums did NOT match"
  return if wrong + unread = 0 then 0 else 1

/-- Writes digests, or checks them. -/
def digestTool (title : String) (digest : Bytes → String) : Tool := fun call => do
  let call := call.byLines
  let known : Known :=
    { letters := "bctwzTSq", long := [("binary", 'b'), ("check", 'c'), ("text", 't'),
        ("tag", 'T'), ("status", 'S'), ("quiet", 'q'), ("zero", 'z')] }
  let (options, paths) ← call.parse known
  call.overContents paths fun path content => do
    if given options 'c' then
      checkDigests call digest (given options 'S') (given options 'q') content
    else
      let ending := if given options 'z' then "\x00" else "\n"
      let path := if paths.isEmpty then "-" else path
      let mark := if given options 'b' then "*" else " "
      call.print (if given options 'T' then s!"{title} ({path}) = {digest content}{ending}"
        else s!"{digest content} {mark}{path}{ending}")
      return 0

end EventHooks.Utility
