import CardHealth.Text.AsciiCase
import CardHealth.Text.Lowercase
import CardHealth.Text.Percent

/-!
# Letter case in ASCII

The small letters of ASCII have no other small letters (`lowerAscii_lowerAscii`).  On ASCII texts
the lower case of Unicode is that of ASCII (`lower_of_isAscii`): each letter has one small letter,
and there is no sigma, so that a letter's neighbours do not count.
-/

namespace CardHealth.Text

/-- What holds of all characters below 128 holds of those in ASCII. -/
theorem of_isAscii {p : Char → Prop} (h : ∀ n < 128, p (Char.ofNat n)) {c : Char}
    (hc : isAscii c) : p c := by
  have hp := h c.toNat (by simpa [isAscii] using hc)
  rwa [Char.ofNat_toNat] at hp

theorem isAscii_of_capital {c : Char} (h : 'A' ≤ c ∧ c ≤ 'Z') : isAscii c := by
  have hhigh : c.toNat ≤ 90 := h.2
  simp only [isAscii, decide_eq_true_eq]
  omega

theorem lowerAsciiChar_of_not_capital {c : Char} (h : ¬('A' ≤ c ∧ c ≤ 'Z')) :
    lowerAsciiChar c = c :=
  if_neg h

/-- A small letter is not a capital. -/
theorem lowerAsciiChar_lowerAsciiChar (c : Char) :
    lowerAsciiChar (lowerAsciiChar c) = lowerAsciiChar c := by
  by_cases hc : 'A' ≤ c ∧ c ≤ 'Z'
  · refine of_isAscii (p := fun c => lowerAsciiChar (lowerAsciiChar c) = lowerAsciiChar c) ?_
      (isAscii_of_capital hc)
    decide +kernel
  · rw [lowerAsciiChar_of_not_capital hc, lowerAsciiChar_of_not_capital hc]

theorem lowerAscii_lowerAscii (s : String) : lowerAscii (lowerAscii s) = lowerAscii s := by
  have hmap : (s.toList.map lowerAsciiChar).map lowerAsciiChar = s.toList.map lowerAsciiChar := by
    rw [List.map_map]
    exact List.map_congr_left fun c _ => lowerAsciiChar_lowerAsciiChar c
  rw [lowerAscii, lowerAscii, String.toList_ofList, hmap]

theorem lowerChar_of_isAscii {c : Char} (h : isAscii c) : lowerChar c = [lowerAsciiChar c] :=
  of_isAscii (p := fun c => lowerChar c = [lowerAsciiChar c]) (by decide +kernel) h

/-- The characters before a text do not matter to it if it is in ASCII. -/
theorem lowerAfter_of_isAscii {s : List Char} (h : s.all isAscii) (before : List Char) :
    lowerAfter before s = s.map lowerAsciiChar := by
  induction s generalizing before with
  | nil => rfl
  | cons c s ih =>
    obtain ⟨hc, hs⟩ := Bool.and_eq_true_iff.mp h
    have hsigma : c ≠ '\u03A3' := by
      rintro rfl
      exact absurd hc (by decide)
    rw [lowerAfter, if_neg (by simpa using hsigma), ih hs, lowerChar_of_isAscii hc]
    rfl

theorem lower_of_isAscii {s : String} (h : s.toList.all isAscii) : lower s = lowerAscii s := by
  rw [lower, lowerAfter_of_isAscii h, lowerAscii]

/-- The same letter is spelled differently within a word and at its end. -/
example : lower "ΣΟΦΟΣ" = "σοφος" := by
  decide +kernel

end CardHealth.Text
