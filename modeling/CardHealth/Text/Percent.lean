import CardHealth.Text.Utf8

/-!
# Percent encoding

A byte may be written as `%` and two hexadecimal digits.  Decoding leaves every other use of `%`
as it is; the bytes that a run of ASCII characters denotes are read as UTF-8, with a replacement
character for each ill-formed piece.  A character outside ASCII stands for itself and ends the run.
-/

namespace CardHealth.Text

/-- The value of a hexadecimal digit in either case. -/
def hexValue? (c : Char) : Option Nat :=
  if '0' ≤ c ∧ c ≤ '9' then some (c.toNat - 48)
  else if 'a' ≤ c ∧ c ≤ 'f' then some (c.toNat - 87)
  else if 'A' ≤ c ∧ c ≤ 'F' then some (c.toNat - 55)
  else none

/-- The byte that two hexadecimal digits denote. -/
def hexByte? (high low : Char) : Option UInt8 := do
  let h ← hexValue? high
  let l ← hexValue? low
  return UInt8.ofNat (16 * h + l)

/-- Puts the bytes that an ASCII text denotes, the last one first, before `acc`. -/
def percentBytesOnto (acc : Bytes) : List Char → Bytes
  | [] => acc
  | [c] => UInt8.ofNat c.toNat :: acc
  | [c, d] => UInt8.ofNat d.toNat :: UInt8.ofNat c.toNat :: acc
  | c :: high :: low :: rest =>
    match if c == '%' then hexByte? high low else none with
    | some b => percentBytesOnto (b :: acc) rest
    | none => percentBytesOnto (UInt8.ofNat c.toNat :: acc) (high :: low :: rest)
termination_by s => s.length
decreasing_by all_goals simp only [List.length_cons]; omega

/-- The bytes that an ASCII text denotes. -/
def percentBytes (s : List Char) : Bytes :=
  (percentBytesOnto [] s).reverse

/-- Whether a character is in ASCII. -/
def isAscii (c : Char) : Bool :=
  c.toNat < 0x80

/-- Decodes the percent escapes of a text, run by run. -/
def percentDecode (s : List Char) : List Char :=
  (s.splitBy fun a b => isAscii a == isAscii b).flatMap fun run =>
    if run.all isAscii then decodeUtf8Lossy (percentBytes run) else run

/-- Decodes a text in which a plus sign stands for a blank. -/
def plusDecode (s : List Char) : List Char :=
  percentDecode (s.map fun c => if c == '+' then ' ' else c)

/-- The letters, digits and marks that never need an escape. -/
def isUnreserved (c : Char) : Bool :=
  c.isAlphanum || c == '_' || c == '.' || c == '-' || c == '~'

/-- A byte as a percent escape, with capital digits. -/
def percentEscape (b : UInt8) : List Char :=
  '%' :: (hexDigits 2 b.toNat).map Char.toUpper

/-- Escapes each byte of a text's UTF-8 form, unless it is an unreserved or a `safe` ASCII
character. -/
def percentEncode (safe : Char → Bool) (s : String) : String :=
  String.ofList <| (encodeUtf8 s).flatMap fun b =>
    let c := Char.ofNat b.toNat
    if isAscii c && (isUnreserved c || safe c) then [c] else percentEscape b

end CardHealth.Text
