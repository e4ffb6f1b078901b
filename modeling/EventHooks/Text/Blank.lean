/-!
# White space

Text is trimmed of the white space of every script and of the four information separators. An
integer written as text is surrounded by a smaller class below U+0080, which lacks the separators.
-/
namespace EventHooks.Text

/-- The characters of white space, as single code points and as ranges. -/
def blankRanges : List (Nat × Nat) := [
  (0x09, 0x0D), (0x1C, 0x20), (0x85, 0x85), (0xA0, 0xA0), (0x1680, 0x1680), (0x2000, 0x200A),
  (0x2028, 0x2029), (0x202F, 0x202F), (0x205F, 0x205F), (0x3000, 0x3000)]

/-- Exactly the characters that trimming removes. -/
def isBlank (c : Char) : Bool :=
  blankRanges.any fun range => range.1 ≤ c.toNat && c.toNat ≤ range.2

/-- Exactly tab, line feed, vertical tab, form feed, carriage return and space. -/
def isAsciiBlank (c : Char) : Bool :=
  c == ' ' || (0x09 ≤ c.toNat && c.toNat ≤ 0x0D)

/-- Characters without the blanks at either end. -/
def trimBlanks (chars : List Char) : List Char :=
  ((chars.dropWhile isBlank).reverse.dropWhile isBlank).reverse

/-- Text without the blanks at either end. -/
def trim (text : String) : String :=
  String.ofList (trimBlanks text.toList)

end EventHooks.Text
