import EventHooks.Text.Hex
import EventHooks.Utility.Stream

/-!
# Utilities that write bytes in other ways

Bytes are written in the letters of base 64 and dumped as numbers and names.
-/
namespace EventHooks.Utility

/-! ## Base 64 -/

/-- The letters of base 64. -/
def letters64 : Array Char :=
  "ABCDEFGHIJKLMNOPQRSTUVWXYZabcdefghijklmnopqrstuvwxyz0123456789+/".toList.toArray

/-- The letter of a number. -/
def letter64 (value : Nat) : Char :=
  (letters64[value % 64]?).getD 'A'

/-- Bytes in base 64. -/
def encode64 : Bytes → List Char
  | a :: b :: c :: rest =>
    let value := a.toNat * 65536 + b.toNat * 256 + c.toNat
    letter64 (value / 262144) :: letter64 (value / 4096) :: letter64 (value / 64) ::
      letter64 value :: encode64 rest
  | [a, b] =>
    let value := a.toNat * 65536 + b.toNat * 256
    [letter64 (value / 262144), letter64 (value / 4096), letter64 (value / 64), '=']
  | [a] =>
    let value := a.toNat * 65536
    [letter64 (value / 262144), letter64 (value / 4096), '=', '=']
  | [] => []

/-- The bytes that letters of base 64 write, and whether they are proper ones. -/
def decode64 : List Char → Bytes × Bool
  | a :: b :: c :: d :: rest =>
    match letters64.idxOf? a, letters64.idxOf? b, letters64.idxOf? c, letters64.idxOf? d with
    | some a, some b, some c, some d =>
      let value := a * 262144 + b * 4096 + c * 64 + d
      let (bytes, isProper) := decode64 rest
      ((value / 65536).toUInt8 :: (value / 256).toUInt8 :: value.toUInt8 :: bytes, isProper)
    | some a, some b, some c, none =>
      let value := a * 262144 + b * 4096 + c * 64
      ([(value / 65536).toUInt8, (value / 256).toUInt8], d == '=' && rest.isEmpty)
    | some a, some b, none, none =>
      let value := a * 262144 + b * 4096
      ([(value / 65536).toUInt8], c == '=' && d == '=' && rest.isEmpty)
    | _, _, _, _ => ([], false)
  | [] => ([], true)
  | [a, b, c] =>
    match letters64.idxOf? a, letters64.idxOf? b, letters64.idxOf? c with
    | some a, some b, some c =>
      let value := a * 262144 + b * 4096 + c * 64
      ([(value / 65536).toUInt8, (value / 256).toUInt8], false)
    | _, _, _ => ([], false)
  | [a, b] =>
    match letters64.idxOf? a, letters64.idxOf? b with
    | some a, some b => ([((a * 262144 + b * 4096) / 65536).toUInt8], false)
    | _, _ => ([], false)
  | _ => ([], false)

/-- Lines of at most some characters. -/
def wrapped (width : Nat) : Nat → List Char → List Char
  | 0, chars => chars
  | fuel + 1, chars =>
    if chars.isEmpty then []
    else chars.take width ++ ['\n'] ++ wrapped width fuel (chars.drop width)

/-- Writes bytes in base 64, or reads them. -/
def base64 : Tool := fun call => do
  let known : Known :=
    { letters := "diw:", long := [("decode", 'd'), ("ignore-garbage", 'i'), ("wrap", 'w')] }
  let (options, paths) ← call.parse known
  match paths with
  | _ :: extra :: _ => call.misuse s!"extra operand {quoted extra}"
  | _ => pure ()
  let width ← match valueOf? options 'w' with
    | none => pure 76
    | some text =>
      match amount? text.toList with
      | some width => pure width
      | none =>
        call.complain s!"invalid wrap size: {quoted text}"
        call.quit 1
  call.overContents (paths.take 1) fun _ content => do
    if given options 'd' then
      let chars := (ByteText.ofBytes content).toList.filter (· != '\n')
      let chars := if given options 'i' then
          chars.filter fun c => letters64.contains c || c == '='
        else chars
      let (bytes, isProper) := decode64 chars
      call.put bytes
      if isProper then return 0
      else
        call.complain "invalid input"
        return 1
    else
      let chars := encode64 content
      call.print (String.ofList (if width = 0 then chars
        else wrapped width (chars.length + 1) chars))
      return 0

/-! ## Dumps -/

/-- How values of a dump are written: the letter of the style, and how many bytes a value takes. -/
structure DumpStyle where
  letter : Char
  size : Nat
  showsText : Bool := false

namespace DumpStyle

/-- The names of the first 33 characters. -/
def controlNames : List String :=
  ["nul", "soh", "stx", "etx", "eot", "enq", "ack", "bel", "bs", "ht", "nl", "vt", "ff", "cr",
    "so", "si", "dle", "dc1", "dc2", "dc3", "dc4", "nak", "syn", "etb", "can", "em", "sub", "esc",
    "fs", "gs", "rs", "us", "sp"]

/-- A byte as a character or its escape. -/
def characterText (byte : UInt8) : String :=
  match byte.toNat with
  | 0 => "\\0"
  | 7 => "\\a"
  | 8 => "\\b"
  | 9 => "\\t"
  | 10 => "\\n"
  | 11 => "\\v"
  | 12 => "\\f"
  | 13 => "\\r"
  | code =>
    if 32 ≤ code && code < 127 then String.singleton (Char.ofNat code)
    else
      let digits := Nat.toDigits 8 code
      String.ofList (List.replicate (3 - digits.length) '0' ++ digits)

/-- How wide a value is with the blanks before it. -/
def width (style : DumpStyle) : Nat :=
  match style.letter, style.size with
  | 'c', _ | 'a', _ => 4
  | 'o', 1 => 4
  | 'o', 2 => 7
  | 'o', 4 => 12
  | 'o', _ => 23
  | 'x', size => 2 * size + 1
  | 'u', 1 => 4
  | 'u', 2 => 6
  | 'u', 4 => 11
  | 'd', 1 => 5
  | 'd', 2 => 7
  | 'd', 4 => 12
  | _, _ => 21

/-- The text of a value. -/
def text (style : DumpStyle) (bytes : Bytes) : String :=
  let value := bytes.reverse.foldl (fun value byte => value * 256 + byte.toNat) 0
  let zeros (count : Nat) (digits : List Char) : String :=
    String.ofList (List.replicate (count - digits.length) '0' ++ digits)
  match style.letter with
  | 'c' => characterText (bytes.headD 0)
  | 'a' =>
    let code := value % 128
    if code = 127 then "del" else (controlNames[code]?).getD (String.singleton (Char.ofNat code))
  | 'o' => zeros (style.width - 1) (Nat.toDigits 8 value)
  | 'x' => zeros (style.width - 1) (Nat.toDigits 16 value)
  | 'u' => toString value
  | _ =>
    let range := Nat.pow 256 style.size
    if 2 * value < range then toString value else "-" ++ toString (range - value)

/-- A line of values. -/
def line (style : DumpStyle) (lineSize : Nat) (bytes : Bytes) : String :=
  let padded := bytes ++ List.replicate ((style.size - bytes.length % style.size) % style.size) 0
  let values := (List.range (padded.length / style.size)).map fun place =>
    (padded.drop (place * style.size)).take style.size
  let shown := String.join (values.map fun value =>
    { width := style.width : Layout }.pad (style.text value))
  if style.showsText then
    let full := lineSize / style.size * style.width
    let plain := bytes.map fun byte =>
      if 32 ≤ byte && byte < 127 then Char.ofNat byte.toNat else '.'
    shown ++ String.ofList (List.replicate (full - shown.length) ' ') ++ "  >" ++
      String.ofList plain ++ "<"
  else shown

/-- The styles that a text names. -/
def read? : Nat → List Char → Option (List DumpStyle)
  | 0, _ => some []
  | _, [] => some []
  | fuel + 1, letter :: rest => do
    let (style, rest) ← match letter with
      | 'a' | 'c' => some (({ letter := letter, size := 1 } : DumpStyle), rest)
      | 'd' | 'o' | 'u' | 'x' =>
        let digits := rest.takeWhile (·.isDigit)
        let size := if digits.isEmpty then 4 else FloatText.digitsValue 10 digits
        if [1, 2, 4, 8].contains size then
          some ({ letter := letter, size := size }, rest.drop digits.length)
        else none
      | _ => none
    let (style, rest) := match rest with
      | 'z' :: rest => ({ style with showsText := true }, rest)
      | rest => (style, rest)
    let others ← read? fuel rest
    return style :: others

end DumpStyle

/-- An address in the base of a letter. -/
def addressText (base : Char) (address : Nat) : String :=
  let (width, digits) := match base with
    | 'd' => (7, Nat.toDigits 10 address)
    | 'x' => (6, Nat.toDigits 16 address)
    | 'n' => (0, [])
    | _ => (7, Nat.toDigits 8 address)
  String.ofList (List.replicate (width - digits.length) '0' ++ digits)

/-- The lines of a dump. Lines that repeat the one before are left out. -/
def dumpLines (styles : List DumpStyle) (base : Char) (lineSize : Nat) (showsAll : Bool) :
    Nat → Nat → Option Bytes → Bool → Bytes → List String
  | 0, _, _, _, _ => []
  | fuel + 1, address, before?, isRepeated, bytes =>
    if bytes.isEmpty then
      if base == 'n' then [] else [addressText base address ++ "\n"]
    else
      let here := bytes.take lineSize
      let next := dumpLines styles base lineSize showsAll fuel (address + here.length) (some here)
      if before? == some here && here.length == lineSize && !showsAll then
        (if isRepeated then [] else ["*\n"]) ++ next true (bytes.drop lineSize)
      else
        let blank := String.ofList (List.replicate (addressText base address).length ' ')
        let shown := styles.zipIdx.map fun (style, place) =>
          let start := if place = 0 then addressText base address else blank
          start ++ style.line lineSize here ++ "\n"
        shown ++ next false (bytes.drop lineSize)

/-- Dumps bytes. -/
def od : Tool := fun call => do
  let known : Known :=
    { letters := "A:abcdfij:lN:osS:t:vw:xh"
      long := [("address-radix", 'A'), ("format", 't'), ("read-bytes", 'N'), ("skip-bytes", 'j'),
        ("output-duplicates", 'v'), ("width", 'w')] }
  let (options, paths) ← call.parse known
  let styleOf : Char × String → Option (List DumpStyle)
    | ('a', _) => some [⟨'a', 1, false⟩]
    | ('b', _) => some [⟨'o', 1, false⟩]
    | ('c', _) => some [⟨'c', 1, false⟩]
    | ('d', _) => some [⟨'u', 2, false⟩]
    | ('i', _) => some [⟨'d', 4, false⟩]
    | ('l', _) => some [⟨'d', 8, false⟩]
    | ('o', _) => some [⟨'o', 2, false⟩]
    | ('s', _) => some [⟨'d', 2, false⟩]
    | ('x', _) | ('h', _) => some [⟨'x', 2, false⟩]
    | ('t', text) => DumpStyle.read? (text.length + 1) text.toList
    | _ => some []
  match options.find? fun option => (styleOf option).isNone with
  | some (_, text) =>
    let odd := String.ofList (text.toList.take 1)
    call.complain s!"invalid character {quoted odd} in type string {quoted text}"
    return 1
  | none => pure ()
  let styles := (options.filterMap styleOf).flatten
  let styles := if styles.isEmpty then [⟨'o', 2, false⟩] else styles
  let (content, status) ← call.allContents paths
  let amountOf (letter : Char) : Option Nat := (valueOf? options letter).bind fun text =>
    amount? text.toList
  let skipped := (amountOf 'j').getD 0
  let content := content.drop skipped
  let content := match amountOf 'N' with
    | some count => content.take count
    | none => content
  let base := ((valueOf? options 'A').bind (·.toList.head?)).getD 'o'
  if status = 0 || !content.isEmpty then
    call.print (String.join (dumpLines styles base (max 1 ((amountOf 'w').getD 16))
      (given options 'v') (content.length + 1) skipped none false content))
  return status

end EventHooks.Utility
