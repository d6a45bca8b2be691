import CardHealth.Json.Reader
import Mathlib.Data.List.Basic

/-!
# Strings in JSON texts

A written string is read back character by character (`readString?_flatMap_escapeChar`).  There are
three kinds of characters: those with a backslash of their own, the other control characters, which
are written as a code unit of four digits, and all others, which stand for themselves.
-/

namespace CardHealth.Json

/-! ### Code units -/

/-- The four digits of a control character denote it. -/
theorem hexUnit?_hexDigits : ∀ n < 32, ∃ a b c d, Text.hexDigits 4 n = [a, b, c, d] ∧
    hexUnit? a b c d = some n := by
  intro n hn
  refine ⟨_, _, _, _, rfl, ?_⟩
  revert n
  decide

/-- The code unit of a control character is one character, whatever comes after it. -/
theorem pairUnit_of_lt {n : Nat} (hn : n < 32) (rest : List Char) :
    pairUnit n rest = (Char.ofNat n, rest) := by
  have hhigh : isHighSurrogate n = false := by
    simp only [isHighSurrogate, Bool.and_eq_false_iff, decide_eq_false_iff_not]
    omega
  have hlow : isLowSurrogate n = false := by
    simp only [isLowSurrogate, Bool.and_eq_false_iff, decide_eq_false_iff_not]
    omega
  have hlone : loneUnit n = Char.ofNat n := by simp [loneUnit, hhigh, hlow]
  unfold pairUnit
  split
  · split
    · simp [hhigh, hlone]
    · rw [hlone]
  · rw [hlone]

/-! ### Characters -/

theorem readString?_backslash {c d : Char} (hu : c ≠ 'u') (h : simpleEscape? c = some d)
    (read rest : List Char) :
    readString? read ('\\' :: c :: rest) = readString? (d :: read) rest := by
  rw [readString?]
  · rw [h]
  · intro _ _ _ _ _ heq
    exact absurd heq hu

theorem readString?_unit {n : Nat} (hn : n < 32) (read rest : List Char) :
    readString? read ('\\' :: 'u' :: Text.hexDigits 4 n ++ rest) =
      readString? (Char.ofNat n :: read) rest := by
  obtain ⟨a, b, c, d, hdigits, hunit⟩ := hexUnit?_hexDigits n hn
  rw [hdigits]
  show readString? read ('\\' :: 'u' :: a :: b :: c :: d :: rest) = _
  rw [readString?, hunit]
  dsimp only
  rw [pairUnit_of_lt hn]

theorem readString?_plain {c : Char} (hquote : c ≠ '"') (hslash : c ≠ '\\') (h : 32 ≤ c.toNat)
    (read rest : List Char) : readString? read (c :: rest) = readString? (c :: read) rest := by
  rw [readString?]
  · rw [if_neg (Nat.not_lt.mpr h)]
  · exact hquote
  · intro _ _ _ _ _ heq
    exact absurd heq hslash
  · intro _ _ heq
    exact absurd heq hslash

/-- **A character is read back**, however it is written. -/
theorem readString?_escapeChar (c : Char) (read rest : List Char) :
    readString? read (escapeChar c ++ rest) = readString? (c :: read) rest := by
  have hchar : ∀ n, c.toNat = n → Char.ofNat n = c := by
    rintro n rfl
    exact Char.ofNat_toNat c
  have hshort : ∀ n d, c.toNat = n → d ≠ 'u' → simpleEscape? d = some (Char.ofNat n) →
      readString? read ('\\' :: d :: rest) = readString? (c :: read) rest := by
    intro n d hn hu hd
    rw [← hchar n hn]
    exact readString?_backslash hu hd read rest
  unfold escapeChar
  split_ifs with hmark hcontrol
  · rcases Bool.or_eq_true_iff.mp hmark with hquote | hslash
    · obtain rfl := beq_iff_eq.mp hquote
      exact readString?_backslash (by decide) rfl read rest
    · obtain rfl := beq_iff_eq.mp hslash
      exact readString?_backslash (by decide) rfl read rest
  · split
    -- Five control characters have a letter of their own.
    · rename_i h
      exact hshort _ _ h (by decide) rfl
    · rename_i h
      exact hshort _ _ h (by decide) rfl
    · rename_i h
      exact hshort _ _ h (by decide) rfl
    · rename_i h
      exact hshort _ _ h (by decide) rfl
    · rename_i h
      exact hshort _ _ h (by decide) rfl
    · rw [readString?_unit hcontrol, hchar _ rfl]
  · simp only [Bool.or_eq_true, beq_iff_eq, not_or] at hmark
    exact readString?_plain hmark.1 hmark.2 (Nat.not_lt.mp hcontrol) read rest

/-! ### Strings -/

theorem readString?_flatMap_escapeChar (s read rest : List Char) :
    readString? read (s.flatMap escapeChar ++ '"' :: rest) =
      some (String.ofList (read.reverse ++ s), rest) := by
  induction s generalizing read with
  | nil => rw [List.flatMap_nil, List.nil_append, readString?, List.append_nil]
  | cons c s ih =>
    rw [List.flatMap_cons, List.append_assoc, readString?_escapeChar, ih]
    simp

/-- **A written string is read back**. -/
theorem readString?_renderString (s : String) :
    ∃ body, (renderString s).toList = '"' :: body ∧
      ∀ rest, readString? [] (body ++ rest) = some (s, rest) := by
  refine ⟨s.toList.flatMap escapeChar ++ ['"'], String.toList_ofList, fun rest => ?_⟩
  rw [List.append_assoc, List.singleton_append, readString?_flatMap_escapeChar, List.reverse_nil,
    List.nil_append, String.ofList_toList]

end CardHealth.Json
