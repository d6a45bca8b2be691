import CardHealth.Text.AsciiCase
import CardHealth.Text.Utf8

/-!
# Character sets

Decoding of bytes in a named character set.  Bytes that a set cannot decode, and bytes in a set that
is not known, are read one byte a character; every set with the ASCII characters in their usual
places agrees with that reading on them.
-/

namespace CardHealth.Text

/-- A character set in which texts are decoded. -/
inductive Charset where
  | utf8
  /-- UTF-8 after an optional byte order mark. -/
  | utf8Marked
  /-- UTF-16 after an optional byte order mark. -/
  | utf16Marked
  | utf16 (bigEndian : Bool)
  | singleByte
  deriving DecidableEq, Repr

namespace Charset

/-- A name in small letters, with one underscore for each run of other marks. -/
def plainName (name : String) : String :=
  let isKept (c : Char) : Bool := c.isAlphanum || c == '.'
  let runs := (name.toList.map lowerAsciiChar).splitOnP fun c => !isKept c
  String.ofList (['_'].intercalate (runs.filter fun run => !run.isEmpty))

/-- The character set with a name. -/
def named (name : String) : Charset :=
  let name := plainName name
  if ["utf_8", "utf8", "u8", "utf", "cp65001", "utf8_ucs2", "utf8_ucs4"].contains name then .utf8
  else if name == "utf_8_sig" then .utf8Marked
  else if ["utf_16", "utf16", "u16"].contains name then .utf16Marked
  else if ["utf_16_le", "utf_16le", "unicodelittleunmarked"].contains name then .utf16 false
  else if ["utf_16_be", "utf_16be", "unicodebigunmarked"].contains name then .utf16 true
  else .singleByte

/-- Decodes code units of sixteen bits onto the characters before, the last one first. -/
def decodeUtf16Onto? (bigEndian : Bool) (read : List Char) : Bytes → Option (List Char)
  | [] => some read.reverse
  | [_] => none
  | a :: b :: rest =>
    let unit (x y : UInt8) : Nat :=
      if bigEndian then x.toNat * 256 + y.toNat else y.toNat * 256 + x.toNat
    let first := unit a b
    if 0xD800 ≤ first ∧ first < 0xDC00 then
      match rest with
      | c :: d :: rest =>
        let second := unit c d
        if 0xDC00 ≤ second ∧ second < 0xE000 then
          decodeUtf16Onto? bigEndian
            (Char.ofNat (0x10000 + (first - 0xD800) * 0x400 + (second - 0xDC00)) :: read) rest
        else none
      | _ => none
    else if 0xDC00 ≤ first ∧ first < 0xE000 then none
    else decodeUtf16Onto? bigEndian (Char.ofNat first :: read) rest

/-- Decodes bytes, if they are well-formed in a character set. -/
def decode? : Charset → Bytes → Option (List Char)
  | .utf8, b => (decodeUtf8? b).map String.toList
  | .utf8Marked, 0xEF :: 0xBB :: 0xBF :: b => (decodeUtf8? b).map String.toList
  | .utf8Marked, b => (decodeUtf8? b).map String.toList
  | .utf16Marked, 0xFE :: 0xFF :: b => decodeUtf16Onto? true [] b
  | .utf16Marked, 0xFF :: 0xFE :: b => decodeUtf16Onto? false [] b
  | .utf16Marked, b => decodeUtf16Onto? false [] b
  | .utf16 bigEndian, b => decodeUtf16Onto? bigEndian [] b
  | .singleByte, _ => none

/-- Decodes bytes in a character set, or else one byte a character. -/
def decode (charset : Charset) (b : Bytes) : String :=
  String.ofList ((charset.decode? b).getD (Bytes.toLatin1 b))

end Charset

end CardHealth.Text
