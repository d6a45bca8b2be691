import CardHealth.Numeral
import CardHealth.Proofs.Text.Mark
import Mathlib.Data.List.Induction
import Mathlib.Data.List.TakeWhile
import Mathlib.Data.Nat.Digits.Defs

/-!
# Runs of decimal digits

What a run of the ten digits denotes is `Nat.ofDigitChars 10`, whose lemmas about appended runs and
runs of zeros apply (`ofDigits_filterMap`).  The digits that are written for a positive number do
not begin with a zero (`head?_toDigits_ne`).
-/

namespace CardHealth

/-! ### Digits -/

namespace Text

theorem isDigit_iff {c : Char} : c.isDigit = true ↔ '0' ≤ c ∧ c ≤ '9' := by
  rw [Char.isDigit_iff_toNat, Char.le_def, Char.le_def, UInt32.le_iff_toNat_le,
    UInt32.le_iff_toNat_le]
  rfl

theorem asciiDigit?_of_isDigit {c : Char} (h : c.isDigit = true) :
    asciiDigit? c = some (c.toNat - '0'.toNat) :=
  if_pos (isDigit_iff.mp h)

@[simp] theorem isSome_asciiDigit? (c : Char) : (asciiDigit? c).isSome = c.isDigit := by
  cases h : c.isDigit with
  | true => rw [asciiDigit?_of_isDigit h, Option.isSome_some]
  | false =>
    have hrange : ¬ ('0' ≤ c ∧ c ≤ '9') := fun hrange => by
      rw [isDigit_iff.mpr hrange] at h
      cases h
    rw [asciiDigit?, if_neg hrange, Option.isSome_none]

end Text

/-! ### Runs -/

namespace Numeral

open Text

/-- Nothing but decimal digits. -/
def AreDigits (s : List Char) : Prop :=
  ∀ c ∈ s, c.isDigit = true

theorem AreDigits.append {s t : List Char} (hs : AreDigits s) (ht : AreDigits t) :
    AreDigits (s ++ t) :=
  List.forall_mem_append.mpr ⟨hs, ht⟩

theorem areDigits_zeros (n : Nat) : AreDigits (List.replicate n '0') := by
  intro c hc
  rw [List.eq_of_mem_replicate hc]
  decide

theorem areDigits_toDigits (n : Nat) : AreDigits (Nat.toDigits 10 n) :=
  fun _ hc => Nat.isDigit_of_mem_toDigits (by decide) (by decide) hc

theorem render_eq_toString (n : Int) : render n = toString n := by
  cases n with
  | ofNat n => rfl
  | negSucc n =>
    rw [render, if_pos (Int.negSucc_lt_zero n)]
    rfl

/-- A decimal text has digits, and a minus sign if it has another character. -/
theorem eq_or_isDigit_of_mem_render {n : Int} {c : Char} (h : c ∈ (render n).toList) :
    c = '-' ∨ c.isDigit = true := by
  have hdigits : ∀ c ∈ (Nat.repr n.natAbs).toList, c.isDigit = true := by
    rw [Nat.repr_eq_ofList_toDigits, String.toList_ofList]
    exact areDigits_toDigits n.natAbs
  unfold render at h
  split_ifs at h
  · rw [String.toList_append] at h
    rcases List.mem_append.mp h with hsign | hdigit
    · exact .inl (List.mem_singleton.mp hsign)
    · exact .inr (hdigits c hdigit)
  · exact .inr (hdigits c h)

theorem areDigits_padded (width n : Nat) : AreDigits (padded width n) :=
  (areDigits_zeros _).append (areDigits_toDigits n)

/-- The number of digits tells the size of a number. -/
theorem exists_length_toDigits_eq {n : Nat} (hn : 0 < n) :
    ∃ k, (Nat.toDigits 10 n).length = k + 1 ∧ 10 ^ k ≤ n ∧ n < 10 ^ (k + 1) := by
  have hlength : 0 < (Nat.toDigits 10 n).length := List.length_pos_iff.mpr Nat.toDigits_ne_nil
  obtain ⟨k, hk⟩ : ∃ k, (Nat.toDigits 10 n).length = k + 1 :=
    ⟨_, (Nat.succ_pred_eq_of_pos hlength).symm⟩
  refine ⟨k, hk, ?_, (Nat.length_toDigits_le_iff (by decide) k.succ_pos).mp hk.le⟩
  rcases Nat.eq_zero_or_pos k with rfl | hpos
  · exact hn
  · by_contra hlt
    have hshort := (Nat.length_toDigits_le_iff (by decide) hpos).mpr (not_le.mp hlt)
    omega

theorem ne_nil_padded (width n : Nat) : padded width n ≠ [] :=
  List.append_ne_nil_of_right_ne_nil _ Nat.toDigits_ne_nil

/-- What a run of digits denotes. -/
theorem ofDigits_filterMap {s : List Char} (hs : AreDigits s) :
    ofDigits (s.filterMap asciiDigit?) = Nat.ofDigitChars 10 s 0 := by
  have hmap : s.filterMap asciiDigit? = s.map fun c => c.toNat - '0'.toNat := by
    induction s with
    | nil => rfl
    | cons c s ih =>
      obtain ⟨hc, hs⟩ := List.forall_mem_cons.mp hs
      rw [List.filterMap_cons_some (asciiDigit?_of_isDigit hc), List.map_cons, ih hs]
  rw [hmap, ofDigits, List.foldl_map, Nat.ofDigitChars_eq_foldl]

theorem ofDigitChars_append (s t : List Char) :
    Nat.ofDigitChars 10 (s ++ t) 0 =
      10 ^ t.length * Nat.ofDigitChars 10 s 0 + Nat.ofDigitChars 10 t 0 := by
  rw [Nat.ofDigitChars_append, Nat.ofDigitChars_eq_ofDigitChars_zero]

theorem ofDigitChars_zeros (n : Nat) : Nat.ofDigitChars 10 (List.replicate n '0') 0 = 0 := by
  rw [Nat.ofDigitChars_replicate_zero, Nat.mul_zero]

theorem ofDigitChars_padded (width n : Nat) : Nat.ofDigitChars 10 (padded width n) 0 = n := by
  unfold padded
  rw [ofDigitChars_append, ofDigitChars_zeros, Nat.mul_zero, Nat.zero_add,
    Nat.ofDigitChars_ten_toDigits]

theorem takeWhile_digits {s rest : List Char} (hs : AreDigits s)
    (hrest : ∀ c ∈ rest.head?, c.isDigit = false) :
    ((s ++ rest).takeWhile fun c => (asciiDigit? c).isSome) = s := by
  simp only [isSome_asciiDigit?]
  exact takeWhile_append_of_head hs hrest

theorem dropWhile_digits {s rest : List Char} (hs : AreDigits s)
    (hrest : ∀ c ∈ rest.head?, c.isDigit = false) :
    ((s ++ rest).dropWhile fun c => (asciiDigit? c).isSome) = rest := by
  simp only [isSome_asciiDigit?]
  exact dropWhile_append_of_head hs hrest

theorem ofDigitChars_pos {s : List Char} (hs : AreDigits s) (hne : s ≠ [])
    (hhead : s.head? ≠ some '0') : 0 < Nat.ofDigitChars 10 s 0 := by
  obtain ⟨c, rest, rfl⟩ := List.exists_cons_of_ne_nil hne
  obtain ⟨hc, -⟩ := List.forall_mem_cons.mp hs
  have hrange := Char.isDigit_iff_toNat.mp hc
  have hzero : '0'.toNat = 48 := rfl
  have hne : c.toNat ≠ '0'.toNat := by
    intro heq
    rw [← Char.ofNat_toNat c, heq] at hhead
    exact hhead rfl
  rw [Nat.ofDigitChars_cons, Nat.mul_zero, Nat.zero_add, Nat.ofDigitChars_eq_ofDigitChars_zero]
  have hpos : 0 < 10 ^ rest.length * (c.toNat - '0'.toNat) :=
    Nat.mul_pos (Nat.pow_pos (by decide)) (by omega)
  omega

theorem toDigits_digit {c : Char} (h : c.isDigit = true) :
    Nat.toDigits 10 (c.toNat - '0'.toNat) = [c] := by
  obtain ⟨hlow, hhigh⟩ := Char.isDigit_iff_toNat.mp h
  have hzero : '0'.toNat = 48 := rfl
  have hnine : '9'.toNat = 57 := rfl
  have hlt : c.toNat - '0'.toNat < 10 := by omega
  have hcode : (Nat.digitChar (c.toNat - '0'.toNat)).toNat = c.toNat := by
    rw [Nat.toNat_digitChar_of_lt_ten hlt]
    omega
  rw [Nat.toDigits_of_lt_base hlt, ← Char.ofNat_toNat (Nat.digitChar _), hcode, Char.ofNat_toNat]

/-- **Digits without a zero in front are those that are written for their number**. -/
theorem toDigits_ofDigitChars {s : List Char} (hs : AreDigits s) (hne : s ≠ [])
    (hhead : s.head? = some '0' → s = ['0']) :
    Nat.toDigits 10 (Nat.ofDigitChars 10 s 0) = s := by
  induction s using List.reverseRecOn with
  | nil => exact absurd rfl hne
  | append_singleton s c ih =>
    obtain ⟨hs, hlast⟩ := List.forall_mem_append.mp hs
    have hc : c.isDigit = true := hlast c (List.mem_singleton_self c)
    have hlt : c.toNat - '0'.toNat < 10 := by
      have hrange := Char.isDigit_iff_toNat.mp hc
      have hzero : '0'.toNat = 48 := rfl
      have hnine : '9'.toNat = 57 := rfl
      omega
    rw [Nat.ofDigitChars_append, Nat.ofDigitChars_cons, Nat.ofDigitChars_nil]
    by_cases hempty : s = []
    · subst hempty
      rw [Nat.ofDigitChars_nil, Nat.mul_zero, Nat.zero_add, toDigits_digit hc, List.nil_append]
    · -- The digits before the last one do not begin with a zero, so their number is positive.
      have hnot : s.head? ≠ some '0' := by
        intro hzero
        have hall := hhead (by rw [List.head?_append, hzero, Option.some_or])
        have hlength := congrArg List.length hall
        rw [List.length_append, List.length_singleton, List.length_singleton] at hlength
        exact hempty (List.length_eq_zero_iff.mp (by omega))
      rw [← Nat.toDigits_append_toDigits (by decide) (ofDigitChars_pos hs hempty hnot) hlt,
        ih hs hempty fun hzero => absurd hzero hnot, toDigits_digit hc]

/-- A positive number is not written with a zero at the head: its first digit is that of the tenth
part. -/
theorem head?_toDigits_ne {n : Nat} (hn : 0 < n) : (Nat.toDigits 10 n).head? ≠ some '0' := by
  induction n using Nat.strongRecOn with
  | ind n ih =>
    rcases Nat.lt_or_ge n 10 with hlt | hge
    · rw [Nat.toDigits_of_lt_base hlt, List.head?_cons, Ne, Option.some.injEq,
        Nat.digitChar_eq_zero]
      exact hn.ne'
    · have hhead : (Nat.toDigits 10 n).head? = (Nat.toDigits 10 (n / 10)).head? := by
        rw [Nat.toDigits_of_base_le (by decide) hge, List.head?_append,
          List.head?_eq_some_head Nat.toDigits_ne_nil, Option.some_or]
      rw [hhead]
      exact ih (n / 10) (by omega) (by omega)

end Numeral

end CardHealth
