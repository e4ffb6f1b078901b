import EventHooks.Text.Utf8

/-!
# Texts that stand for bytes

Programs work on bytes. In their texts a character stands for the byte of its number; such a text is
made from a proper one by encoding it, and read as a proper one if its bytes encode one.
-/
namespace EventHooks.ByteText

/-- The bytes that a text stands for. -/
def toBytes (text : String) : Bytes :=
  text.toList.map fun c => c.toNat.toUInt8

/-- The text that stands for bytes. -/
def ofBytes (bytes : Bytes) : String :=
  String.ofList (bytes.map fun byte => Char.ofNat byte.toNat)

/-- The text that stands for the encoding of a proper text. -/
def ofText (text : String) : String :=
  ofBytes (Utf8.encode text)

/-- The proper text that a text encodes, or the text itself if there is none. -/
def toText (text : String) : String :=
  (Utf8.decode? (toBytes text)).getD text

end EventHooks.ByteText
