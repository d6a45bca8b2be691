import CardHealth.Text.Blank
import CardHealth.Text.DecimalDigit
import Mathlib.Data.List.TakeWhile

/-!
# Trimmed texts

Trimming takes away members at both ends and nothing else (`exists_eq_append_trimBy_append`), and
what is bounded by members that stay is what is left (`trimBy_append_append`).
-/

namespace CardHealth.Text

variable {α : Type} {p : α → Bool}

/-! ### Trimming -/

theorem exists_eq_dropTailWhile_append (p : α → Bool) (s : List α) :
    ∃ after, s = dropTailWhile p s ++ after ∧ ∀ a ∈ after, p a = true := by
  refine ⟨(s.reverse.takeWhile p).reverse, ?_, ?_⟩
  · rw [dropTailWhile, ← List.reverse_append, List.takeWhile_append_dropWhile, List.reverse_reverse]
  · exact fun a ha => List.mem_takeWhile_imp (List.mem_reverse.mp ha)

theorem exists_eq_append_trimBy_append (p : α → Bool) (s : List α) :
    ∃ before after, s = before ++ trimBy p s ++ after ∧
      (∀ a ∈ before, p a = true) ∧ ∀ a ∈ after, p a = true := by
  obtain ⟨after, heq, hafter⟩ := exists_eq_dropTailWhile_append p (s.dropWhile p)
  refine ⟨s.takeWhile p, after, ?_, fun a ha => List.mem_takeWhile_imp ha, hafter⟩
  rw [trimBy, List.append_assoc, ← heq, List.takeWhile_append_dropWhile]

theorem dropTailWhile_append {s after : List α} (hafter : ∀ a ∈ after, p a = true)
    (hlast : ∀ a ∈ s.getLast?, p a = false) : dropTailWhile p (s ++ after) = s := by
  rw [dropTailWhile, List.reverse_append,
    List.dropWhile_append_of_pos fun a ha => hafter a (List.mem_reverse.mp ha)]
  have hkept : s.reverse.dropWhile p = s.reverse := by
    cases hs : s.reverse with
    | nil => rfl
    | cons a rest =>
      have hp : p a = false := hlast a (by simp [← List.head?_reverse, hs])
      rw [List.dropWhile_cons_of_neg (by simp [hp])]
  rw [hkept, List.reverse_reverse]

/-- **What is between the trimmed ends is left**. -/
theorem trimBy_append_append {before s after : List α} (hbefore : ∀ a ∈ before, p a = true)
    (hafter : ∀ a ∈ after, p a = true) (hne : s ≠ []) (hfirst : ∀ a ∈ s.head?, p a = false)
    (hlast : ∀ a ∈ s.getLast?, p a = false) : trimBy p (before ++ s ++ after) = s := by
  have hkept : (s ++ after).dropWhile p = s ++ after := by
    cases s with
    | nil => exact absurd rfl hne
    | cons a rest =>
      have hp : p a = false := hfirst a rfl
      rw [List.cons_append, List.dropWhile_cons_of_neg (by simp [hp])]
  rw [trimBy, List.append_assoc, List.dropWhile_append_of_pos hbefore, hkept,
    dropTailWhile_append hafter hlast]

/-- A text whose ends are not trimmed is left as it is. -/
theorem trimBy_of_ends {s : List α} (hne : s ≠ []) (hfirst : ∀ a ∈ s.head?, p a = false)
    (hlast : ∀ a ∈ s.getLast?, p a = false) : trimBy p s = s := by
  have htrim : trimBy p ([] ++ s ++ []) = s :=
    trimBy_append_append (by simp) (by simp) hne hfirst hlast
  rwa [List.nil_append, List.append_nil] at htrim

theorem trimBy_eq_self {s : List α} (h : ∀ a ∈ s, p a = false) : trimBy p s = s := by
  rcases eq_or_ne s [] with rfl | hne
  · rfl
  · exact trimBy_of_ends hne (fun a ha => h a (List.mem_of_head? ha))
      fun a ha => h a (List.mem_of_getLast? ha)

/-! ### Digits -/

theorem isBlank_ofNat_add : ∀ first ∈ decimalZeros, ∀ d < 10,
    isBlank (Char.ofNat (first + d)) = false := by
  decide +kernel

theorem isBlank_of_decimalDigit? {c : Char} {d : Nat} (h : decimalDigit? c = some d) :
    isBlank c = false := by
  obtain ⟨first, hfind, -⟩ := Option.map_eq_some_iff.mp h
  have hmem := List.mem_of_find?_eq_some hfind
  have hrange := List.find?_some hfind
  simp only [Bool.and_eq_true, decide_eq_true_eq] at hrange
  have hblank := isBlank_ofNat_add first hmem (c.toNat - first) (by omega)
  rwa [Nat.add_sub_cancel' hrange.1, Char.ofNat_toNat] at hblank

end CardHealth.Text
