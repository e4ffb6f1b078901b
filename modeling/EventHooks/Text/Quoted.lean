import EventHooks.Text.Hex
import EventHooks.Text.Printable

/-!
# Quoted text

Messages show a text between quotes on one line of printable characters. The quote is an
apostrophe, or a double quote for a text that has apostrophes and no double quote. The backslash
and the quote in use are escaped, and so is every character that is not printable.
-/
namespace EventHooks.Text

/-- The quote that goes around a text. -/
def quoteMark (chars : List Char) : Char :=
  if chars.contains '\'' && !chars.contains '"' then '"' else '\''

theorem quoteMark_cases (chars : List Char) : quoteMark chars = '\'' ∨ quoteMark chars = '"' := by
  unfold quoteMark
  split
  · exact .inr rfl
  · exact .inl rfl

/-- One character of a quoted text. -/
def quotedChar (mark c : Char) : List Char :=
  if c = mark ∨ c = '\\' then ['\\', c]
  else if c = '\n' then ['\\', 'n']
  else if c = '\r' then ['\\', 'r']
  else if c = '\t' then ['\\', 't']
  else if isPrintable c then [c]
  else if c.toNat < 0x100 then '\\' :: 'x' :: hexDigits 2 c.toNat
  else if c.toNat < 0x10000 then '\\' :: 'u' :: hexDigits 4 c.toNat
  else '\\' :: 'U' :: hexDigits 8 c.toNat

/-- Characters between quotes. -/
def quotedChars (chars : List Char) : List Char :=
  quoteMark chars :: (chars.flatMap (quotedChar (quoteMark chars)) ++ [quoteMark chars])

/-- A text between quotes. -/
def quoted (text : String) : String :=
  String.ofList (quotedChars text.toList)

end EventHooks.Text
