/-!
# Byte strings

Binary data is a list of bytes; a request body, a sector map and the text of a file are such
lists.
-/

namespace CardHealth

/-- A byte string. -/
abbrev Bytes := List UInt8

namespace Bytes

/-- The bytes of a text all of whose characters are below U+0100, one byte a character; the rest
of a wider code point is dropped. -/
def ofLatin1 (s : String) : Bytes :=
  s.toList.map fun c => UInt8.ofNat c.toNat

/-- The text with one character a byte. -/
def toLatin1 (b : Bytes) : List Char :=
  b.map fun byte => Char.ofNat byte.toNat

end Bytes

end CardHealth
