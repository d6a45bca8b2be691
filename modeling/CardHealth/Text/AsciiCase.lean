/-!
# ASCII letter case

The words this library compares without regard to case (header fields, media types, header
parameters, character sets, words for numbers and truth values) are spelled in ASCII, so only the
letters `A` to `Z` have another case.
-/

namespace CardHealth.Text

/-- The small letter of an ASCII capital; every other character is kept. -/
def lowerAsciiChar (c : Char) : Char :=
  if 'A' ≤ c ∧ c ≤ 'Z' then Char.ofNat (c.toNat + 32) else c

/-- A text with its ASCII capitals made small. -/
def lowerAscii (s : String) : String :=
  String.ofList (s.toList.map lowerAsciiChar)

end CardHealth.Text
