/-!
# Blank characters

Two classes of white space and the trimming of texts.  `isBlank` is the Unicode property
White_Space; `isSpacing` adds the four information separators, which some line formats also skip.
-/

namespace CardHealth.Text

/-- The Unicode property White_Space. -/
def isBlank (c : Char) : Bool :=
  let n := c.toNat
  (0x09 ≤ n && n ≤ 0x0D) || n == 0x20 || n == 0x85 || n == 0xA0 || n == 0x1680 ||
    (0x2000 ≤ n && n ≤ 0x200A) || n == 0x2028 || n == 0x2029 || n == 0x202F || n == 0x205F ||
    n == 0x3000

/-- White space or one of the information separators U+001C to U+001F. -/
def isSpacing (c : Char) : Bool :=
  isBlank c || (0x1C ≤ c.toNat && c.toNat ≤ 0x1F)

/-- Drops the longest tail whose members all satisfy `p`. -/
def dropTailWhile {α : Type} (p : α → Bool) (s : List α) : List α :=
  (s.reverse.dropWhile p).reverse

/-- Drops the members that satisfy `p` from both ends. -/
def trimBy {α : Type} (p : α → Bool) (s : List α) : List α :=
  dropTailWhile p (s.dropWhile p)

/-- A text without the white space around it. -/
def trim (s : List Char) : List Char :=
  trimBy isBlank s

end CardHealth.Text
