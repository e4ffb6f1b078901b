import EventHooks.Json.Reader

/-!
# Writing JSON

A record is written as an object of one member a line, indented by two blanks, in ASCII: other
characters are escaped by their code, as a surrogate pair above U+FFFF.
-/
namespace EventHooks.Json

/-- An escape by code. -/
def unicodeEscape (code : Nat) : List Char :=
  '\\' :: 'u' :: Text.hexDigits 4 code

/-- One character of a written text. -/
def writtenChar (c : Char) : List Char :=
  if c = '"' ∨ c = '\\' then ['\\', c]
  else if c = '\n' then ['\\', 'n']
  else if c = '\r' then ['\\', 'r']
  else if c = '\t' then ['\\', 't']
  else if c = '\x0c' then ['\\', 'f']
  else if c = '\x08' then ['\\', 'b']
  else if 0x20 ≤ c.toNat ∧ c.toNat < 0x7F then [c]
  else if c.toNat < 0x10000 then unicodeEscape c.toNat
  else
    unicodeEscape (0xD800 + (c.toNat - 0x10000) / 0x400) ++
      unicodeEscape (0xDC00 + (c.toNat - 0x10000) % 0x400)

/-- A text between double quotes. -/
def writtenText (content : String) : List Char :=
  '"' :: (content.toList.flatMap writtenChar ++ ['"'])

/-- One member on a line of its own, without the comma. The value is given as it is written. -/
def writtenMember (member : String × List Char) : List Char :=
  "\n  ".toList ++ writtenText member.1 ++ ": ".toList ++ member.2

/-- A record as an object, with a line feed at the end. -/
def writeRecord (members : List (String × List Char)) : String :=
  String.ofList <|
    '\x7b' :: ([','].intercalate (members.map writtenMember) ++ "\n\x7d\n".toList)

end EventHooks.Json
