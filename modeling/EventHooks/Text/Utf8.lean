import EventHooks.Text.Hex

/-!
# UTF-8

Bytes are read strictly: no overlong form, no surrogate, nothing above U+10FFFF. A fault names the
bytes at the first place where no character can continue, and why. Writing is core's encoding of
single characters.
-/
namespace EventHooks

/-- A sequence of bytes: the contents of a file or the output of a program. -/
abbrev Bytes := List UInt8

namespace Utf8

/-- Why bytes are no character. -/
inductive Reason
  | invalidStart
  | invalidContinuation
  | unexpectedEnd
  deriving DecidableEq, Repr

/-- Bytes that are no character, and where they stand. -/
structure Fault where
  offset : Nat
  bytes : Bytes
  reason : Reason
  deriving DecidableEq, Repr

/-- Whether a byte continues a character. -/
def isTail (byte : UInt8) : Bool :=
  0x80 ≤ byte && byte < 0xC0

/-- Whether a byte may be the second of a character of three bytes: no overlong form and no
surrogate. -/
def isSecondOfThree (first second : UInt8) : Bool :=
  isTail second && (first != 0xE0 || 0xA0 ≤ second) && (first != 0xED || second < 0xA0)

/-- Whether a byte may be the second of a character of four bytes: no overlong form and nothing
above the last code point. -/
def isSecondOfFour (first second : UInt8) : Bool :=
  isTail second && (first != 0xF0 || 0x90 ≤ second) && (first != 0xF4 || second < 0x90)

/-- The character of a first byte, stripped of its mark, and of the bytes that continue it. -/
def assemble (high : Nat) (tails : Bytes) : Char :=
  Char.ofNat (tails.foldl (fun code byte => code * 64 + byte.toNat % 64) high)

/-- Reads the bytes from `offset` on; the characters before them are in `read`, the last first. -/
def decodeFrom (offset : Nat) (read : List Char) : Bytes → Except Fault (List Char)
  | [] => .ok read.reverse
  | a :: rest =>
    if a < 0x80 then decodeFrom (offset + 1) (assemble a.toNat [] :: read) rest
    else if a < 0xC2 then .error ⟨offset, [a], .invalidStart⟩
    else if a < 0xE0 then
      match rest with
      | [] => .error ⟨offset, [a], .unexpectedEnd⟩
      | b :: rest =>
        if !isTail b then .error ⟨offset, [a], .invalidContinuation⟩
        else decodeFrom (offset + 2) (assemble (a.toNat % 32) [b] :: read) rest
    else if a < 0xF0 then
      match rest with
      | [] => .error ⟨offset, [a], .unexpectedEnd⟩
      | b :: rest =>
        if !isSecondOfThree a b then .error ⟨offset, [a], .invalidContinuation⟩
        else
          match rest with
          | [] => .error ⟨offset, [a, b], .unexpectedEnd⟩
          | c :: rest =>
            if !isTail c then .error ⟨offset, [a, b], .invalidContinuation⟩
            else decodeFrom (offset + 3) (assemble (a.toNat % 16) [b, c] :: read) rest
    else if a < 0xF5 then
      match rest with
      | [] => .error ⟨offset, [a], .unexpectedEnd⟩
      | b :: rest =>
        if !isSecondOfFour a b then .error ⟨offset, [a], .invalidContinuation⟩
        else
          match rest with
          | [] => .error ⟨offset, [a, b], .unexpectedEnd⟩
          | c :: rest =>
            if !isTail c then .error ⟨offset, [a, b], .invalidContinuation⟩
            else
              match rest with
              | [] => .error ⟨offset, [a, b, c], .unexpectedEnd⟩
              | d :: rest =>
                if !isTail d then .error ⟨offset, [a, b, c], .invalidContinuation⟩
                else decodeFrom (offset + 4) (assemble (a.toNat % 8) [b, c, d] :: read) rest
    else .error ⟨offset, [a], .invalidStart⟩

/-- The text that bytes write. -/
def decode (bytes : Bytes) : Except Fault String :=
  (decodeFrom 0 [] bytes).map String.ofList

/-- The text that bytes write, if they write one. -/
def decode? (bytes : Bytes) : Option String :=
  (decode bytes).toOption

/-- The bytes of a text. -/
def encode (text : String) : Bytes :=
  text.toList.flatMap String.utf8EncodeChar

/-- The words for a reason. -/
def Reason.message : Reason → String
  | .invalidStart => "invalid start byte"
  | .invalidContinuation => "invalid continuation byte"
  | .unexpectedEnd => "unexpected end of data"

/-- The words for a fault: a single byte by its value, several by their places. -/
def Fault.message (fault : Fault) : String :=
  let place :=
    match fault.bytes with
    | [byte] =>
      s!"byte 0x{String.ofList (Text.hexDigits 2 byte.toNat)} in position {fault.offset}"
    | bytes => s!"bytes in position {fault.offset}-{fault.offset + bytes.length - 1}"
  s!"'utf-8' codec can't decode {place}: {fault.reason.message}"

/-- Whether bytes come before others, or are the same. -/
def bytesBefore : Bytes → Bytes → Bool
  | [], _ => true
  | _, [] => false
  | a :: as, b :: bs => a < b || (a == b && bytesBefore as bs)

end Utf8

end EventHooks
