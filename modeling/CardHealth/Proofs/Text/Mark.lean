import Mathlib.Data.List.TakeWhile

/-!
# Texts up to a mark

A text without a mark, and then the mark: what is taken up to the mark is the text, and so is the
first piece that is split off there.
-/

namespace CardHealth.Text

variable {α : Type} [BEq α] [LawfulBEq α] {mark : α} {s : List α}

theorem forall_bne_of_not_mem (h : mark ∉ s) : ∀ a ∈ s, (a != mark) = true :=
  fun _ ha => bne_iff_ne.mpr fun heq => h (heq ▸ ha)

theorem takeWhile_bne_append (h : mark ∉ s) (t : List α) :
    (s ++ mark :: t).takeWhile (· != mark) = s := by
  rw [List.takeWhile_append_of_pos (forall_bne_of_not_mem h),
    List.takeWhile_cons_of_neg (by simp), List.append_nil]

theorem dropWhile_bne_append (h : mark ∉ s) (t : List α) :
    (s ++ mark :: t).dropWhile (· != mark) = mark :: t := by
  rw [List.dropWhile_append_of_pos (forall_bne_of_not_mem h),
    List.dropWhile_cons_of_neg (by simp)]

theorem takeWhile_bne_of_not_mem (h : mark ∉ s) : s.takeWhile (· != mark) = s :=
  List.takeWhile_eq_self_iff.mpr (forall_bne_of_not_mem h)

theorem dropWhile_bne_of_not_mem (h : mark ∉ s) : s.dropWhile (· != mark) = [] :=
  List.dropWhile_eq_nil_iff.mpr (forall_bne_of_not_mem h)

theorem forall_not_beq_of_not_mem (h : mark ∉ s) : ∀ a ∈ s, (a == mark) = false :=
  fun _ ha => beq_eq_false_iff_ne.mpr fun heq => h (heq ▸ ha)

theorem splitOnP_beq_append (h : mark ∉ s) (t : List α) :
    (s ++ mark :: t).splitOnP (· == mark) = s :: t.splitOnP (· == mark) :=
  List.splitOnP_append_cons_of_forall_mem (forall_not_beq_of_not_mem h) mark BEq.rfl t

theorem splitOnP_beq_of_not_mem (h : mark ∉ s) : s.splitOnP (· == mark) = [s] :=
  List.splitOnP_eq_singleton (forall_not_beq_of_not_mem h)

/-! ### Characters of a kind -/

variable {α : Type} {p : α → Bool} {s rest : List α}

/-- What is taken while a condition holds, up to a member that does not meet it. -/
theorem takeWhile_append_of_head (hs : ∀ a ∈ s, p a = true)
    (hrest : ∀ a ∈ rest.head?, p a = false) : (s ++ rest).takeWhile p = s := by
  rw [List.takeWhile_append_of_pos hs]
  cases rest with
  | nil => rw [List.takeWhile_nil, List.append_nil]
  | cons a rest => rw [List.takeWhile_cons_of_neg (by simp [hrest a rfl]), List.append_nil]

theorem dropWhile_append_of_head (hs : ∀ a ∈ s, p a = true)
    (hrest : ∀ a ∈ rest.head?, p a = false) : (s ++ rest).dropWhile p = rest := by
  rw [List.dropWhile_append_of_pos hs]
  cases rest with
  | nil => rfl
  | cons a rest => rw [List.dropWhile_cons_of_neg (by simp [hrest a rfl])]

end CardHealth.Text
