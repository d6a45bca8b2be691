import CardHealth.Config.DotEnv
import Mathlib.Data.List.Infix

/-!
# Quoted values of variable files

A text is written between single quotes with a backslash before each quote and each backslash in it.
The scanner takes a backslash and the character after it together, so it never takes a character of
the text for the quote that closes the value (`readQuoted?_escaped`), and the escapes are replaced
by what was written with them (`unescape_escaped`).  So the text is read back, also if it ends in a
backslash, and nothing after the closing quote is taken into it (`readValue?_quoted`).
-/

namespace CardHealth.Config.DotEnv

/-! ### Quoted texts -/

/-- A character as it is written between single quotes. -/
def quotedChar (c : Char) : List Char :=
  if c == '\\' || c == '\'' then ['\\', c] else [c]

/-- A text as it is written between single quotes. -/
def escaped (text : List Char) : List Char :=
  text.flatMap quotedChar

theorem quotedChar_of_plain {c : Char} (hbackslash : c ≠ '\\') (hquote : c ≠ '\'') :
    quotedChar c = [c] := by
  simp [quotedChar, hbackslash, hquote]

theorem quotedChar_of_mark {c : Char} (h : c = '\\' ∨ c = '\'') : quotedChar c = ['\\', c] := by
  rcases h with rfl | rfl <;> rfl

theorem escaped_cons (c : Char) (text : List Char) :
    escaped (c :: text) = quotedChar c ++ escaped text :=
  List.flatMap_cons

theorem unescape_plain {c : Char} (h : c ≠ '\\') (escape? : Char → Option Char)
    (read rest : List Char) :
    unescape escape? read (c :: rest) = unescape escape? (c :: read) rest := by
  rw [unescape]
  rintro d tail rfl
  exact absurd rfl h

/-- **The escapes are replaced by the characters that were written with them**. -/
theorem unescape_escaped (text read : List Char) :
    unescape singleEscape? read (escaped text) = read.reverse ++ text := by
  induction text generalizing read with
  | nil => simp [escaped, unescape]
  | cons c text ih =>
    by_cases hmark : c = '\\' ∨ c = '\''
    · have hescape : singleEscape? c = some c := by
        rcases hmark with rfl | rfl <;> rfl
      rw [escaped_cons, quotedChar_of_mark hmark, List.cons_append, List.singleton_append,
        unescape, hescape]
      dsimp only
      rw [ih]
      simp
    · obtain ⟨hbackslash, hquote⟩ := not_or.mp hmark
      rw [escaped_cons, quotedChar_of_plain hbackslash hquote, List.singleton_append,
        unescape_plain hbackslash, ih]
      simp

/-! ### Where a quoted value ends -/

section Scan

variable {read rest : List Char} {fallback : Option (List Char × List Char)}

theorem readQuoted?_quote :
    readQuoted? '\'' read fallback ('\'' :: rest) = some (read.reverse, rest) := by
  simp [readQuoted?]

theorem readQuoted?_plain {c : Char} (hbackslash : c ≠ '\\') (hquote : c ≠ '\'') :
    readQuoted? '\'' read fallback (c :: rest) =
      readQuoted? '\'' (c :: read) fallback rest := by
  rw [readQuoted?, if_neg (by simpa using hquote)]
  rintro d tail rfl
  exact absurd rfl hbackslash

/-- **An escaped text is closed by the quote after it**, whatever else follows. -/
theorem readQuoted?_escaped (text : List Char) :
    readQuoted? '\'' read fallback (escaped text ++ '\'' :: rest) =
      some (read.reverse ++ escaped text, rest) := by
  -- The induction is over any fallback: it is not needed in the end, since a quote is found.
  induction text generalizing read fallback with
  | nil => simp [escaped, readQuoted?_quote]
  | cons c text ih =>
    rw [escaped_cons]
    by_cases hmark : c = '\\' ∨ c = '\''
    · rw [quotedChar_of_mark hmark, List.cons_append, List.singleton_append, List.cons_append,
        List.cons_append, readQuoted?, ih]
      simp
    · obtain ⟨hbackslash, hquote⟩ := not_or.mp hmark
      rw [quotedChar_of_plain hbackslash hquote, List.singleton_append, List.cons_append,
        readQuoted?_plain hbackslash hquote, ih]
      simp

end Scan

/-- **A quoted value is read back**, and what follows its closing quote is left. -/
theorem readValue?_quoted (text rest : List Char) :
    readValue? ('\'' :: (escaped text ++ '\'' :: rest)) = some (text, rest) := by
  have hunescape : unescape singleEscape? [] (escaped text) = text := unescape_escaped text []
  rw [readValue?, readQuoted?_escaped]
  simp [hunescape]

end CardHealth.Config.DotEnv
